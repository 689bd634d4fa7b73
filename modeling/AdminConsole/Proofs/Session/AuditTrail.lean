import AdminConsole.Session.Operation
import AdminConsole.Proofs.PermissionSet.Separation

/-!
# The log as an audit trail

Whoever reads what a session writes to the log at the levels `INFO` and `WARN` knows after every operation
whether the session is alive and whose it is, and can tell the operations that changed it from those that did
not: `log_faithful`.
-/

namespace AdminConsole

/-! ## Reading the log -/

namespace LogEvent

/-- Whether the event is kept when only `INFO` and `WARN` are. -/
def isNotable (e : LogEvent) : Bool := e.level != .debug

/-- The user that the event names in clear. -/
def username? (e : LogEvent) : Option String :=
  match e.fields.lookup "username" with
  | some (.text username) => some username
  | _ => none

/-- The number of identifiers that the event says were granted. -/
def permissionCount? (e : LogEvent) : Option Nat :=
  match e.fields.lookup "permissions" with
  | some (.count n) => some n
  | _ => none

end LogEvent

/-- What a reader of the log knows of the session. -/
structure Trail where
  status : SessionStatus
  username : Option String
deriving DecidableEq, Repr

namespace Trail

/-- What a reader knows before the first event. -/
def initial : Trail := ⟨.unauthenticated, none⟩

/-- An event is told by its message. The user of an expired session is known already. -/
def read (x : Trail) (e : LogEvent) : Trail :=
  if e.message = "session authenticated" then ⟨.alive, e.username?⟩
  else if e.message = "session expired" then ⟨.expired, x.username⟩
  else if e.message = "session cleared" then ⟨.unauthenticated, none⟩
  else x

/-- What a reader knows of a session after the events of a log that are notable. -/
def replay (x : Trail) (log : List LogEvent) : Trail := (log.filter LogEvent.isNotable).foldl read x

theorem replay_append {x : Trail} {log more : List LogEvent} :
    x.replay (log ++ more) = (x.replay log).replay more := by
  simp [replay]

end Trail

namespace Session

def trail (s : Session) : Trail := ⟨s.status, s.username?⟩

/-- What operations write to the log, from a session on. -/
def logFrom : Session → List Operation → List LogEvent
  | _, [] => []
  | s, op :: ops => s.events op.transition ++ logFrom (s.apply op.transition) ops

/-- What a history of operations on a new session writes to the log. -/
def log (ops : List Operation) : List LogEvent := logFrom unauthenticated ops

/-- The notable events of an operation after a history. -/
def notableEvents (before : List Operation) (op : Operation) : List LogEvent :=
  ((after before).events op.transition).filter LogEvent.isNotable

/-- Each login of a history happens at a time of its own. -/
def DistinctLogins (ops : List Operation) : Prop := (ops.filterMap fun op => op.login?.map Prod.snd).Nodup

instance (ops : List Operation) : Decidable (DistinctLogins ops) :=
  inferInstanceAs (Decidable (ops.filterMap fun op => op.login?.map Prod.snd).Nodup)

/-- The log of a history tells what became of the session. -/
structure Audited (ops : List Operation) : Prop where
  /-- A reader of the log knows the status and the user after every operation. -/
  replay : ∀ n, Trail.initial.replay (log (ops.take n)) = (after (ops.take n)).trail
  /-- An operation that changes what the session shows is one notable event. -/
  changing : ∀ before op, before ++ [op] <+: ops →
    (after (before ++ [op])).snapshot ≠ (after before).snapshot → ∃ e, notableEvents before op = [e]
  /-- An operation that changes nothing is none. -/
  idle : ∀ before op, before ++ [op] <+: ops →
    (after (before ++ [op])).snapshot = (after before).snapshot → notableEvents before op = []
  /-- The event of a login counts the different identifiers of the set that was granted. Left out are sets
  read back from a store with an identifier of the catalog among the unrecognized: of such a set the two parts
  are counted one by one, and an identifier that is in both counts twice. -/
  count : ∀ before op, before ++ [op] <+: ops → ∀ profile time, op.login? = some (profile, time) →
    profile.permissions.Separated →
      (notableEvents before op).map LogEvent.permissionCount? = [some profile.permissions.names.toFinset.card]
  /-- If the set was made of identifiers, it counts the different ones among them. -/
  countGranted : ∀ before op, before ++ [op] <+: ops → ∀ profile time, op.login? = some (profile, time) →
    ∀ names, profile.permissions = .ofNames names →
      (notableEvents before op).map LogEvent.permissionCount? = [some names.toFinset.card]

section
variable {s : Session} {t : Transition} {op : Operation} {ops : List Operation}

theorem logFrom_append_singleton :
    s.logFrom (ops ++ [op]) = s.logFrom ops ++ (s.run (ops.map Operation.transition)).events op.transition := by
  induction ops generalizing s with
  | nil => simp [logFrom]
  | cons first ops ih => simp [logFrom, ih]

theorem log_append_singleton : log (ops ++ [op]) = log ops ++ (after ops).events op.transition :=
  logFrom_append_singleton

/-- A transition tells a reader of the log what it does to the session. -/
theorem replay_events : s.trail.replay (s.events t) = (s.apply t).trail := by
  cases s <;> cases t <;> rfl

theorem replay_log : Trail.initial.replay (log ops) = (after ops).trail := by
  induction ops using List.reverseRecOn with
  | nil => rfl
  | append_singleton ops op ih =>
    rw [log_append_singleton, Trail.replay_append, ih, replay_events, after_append_singleton]

theorem since?_apply : (s.apply t).since? =
    match t with
    | .authenticate _ time => some time
    | .expire => s.since?
    | .clear => none := by
  cases s <;> cases t <;> rfl

/-- The time of a session is that of one of the logins. -/
theorem since?_after {time : LoginTime} (h : (after ops).since? = some time) :
    time ∈ ops.filterMap fun op => op.login?.map Prod.snd := by
  induction ops using List.reverseRecOn with
  | nil => cases h
  | append_singleton ops op ih =>
    rw [after_append_singleton, since?_apply] at h
    rw [List.filterMap_append, List.mem_append]
    cases op with
    | authenticate username granted time' | authenticateProfile profile time' =>
      cases h
      exact Or.inr (by simp [Operation.login?])
    | markExpired => exact Or.inl (ih h)
    | clear => cases h

/-- A login at a time of its own is not the one that the session stems from. -/
theorem DistinctLogins.since?_ne (distinct : DistinctLogins (ops ++ [op])) {profile : UserProfile}
    {time : LoginTime} (login : op.login? = some (profile, time)) : (after ops).since? ≠ some time := by
  intro h
  rw [DistinctLogins, List.filterMap_append, List.nodup_append] at distinct
  exact distinct.2.2 time (since?_after h) time (by simp [login]) rfl

/-! ## One operation -/

theorem snapshot_apply_ne (h : (s.apply t).snapshot ≠ s.snapshot) :
    ∃ e, (s.events t).filter LogEvent.isNotable = [e] := by
  cases s with
  | unauthenticated =>
    cases t with
    | authenticate profile time => exact ⟨_, rfl⟩
    | expire | clear => exact absurd rfl h
  | alive profile since => cases t <;> exact ⟨_, rfl⟩
  | expired username since =>
    cases t with
    | authenticate profile time | clear => exact ⟨_, rfl⟩
    | expire => exact absurd rfl h

/-- Nothing but a second login at the same time could be logged and leave the session as it was. -/
theorem snapshot_apply_eq (new : ∀ profile time, t = .authenticate profile time → s.since? ≠ some time)
    (h : (s.apply t).snapshot = s.snapshot) : (s.events t).filter LogEvent.isNotable = [] := by
  have hsince : (s.apply t).since? = s.since? := congrArg Snapshot.since h
  have hstatus : (s.apply t).status = s.status := congrArg Snapshot.status h
  cases t with
  | authenticate profile time => exact absurd (hsince.symm.trans since?_apply) (new profile time rfl)
  | expire =>
    cases s with
    | unauthenticated | expired username since => rfl
    | alive profile since => cases hstatus
  | clear =>
    cases s with
    | unauthenticated => rfl
    | alive profile since | expired username since => cases hstatus

theorem Operation.login?_of_transition {profile : UserProfile} {time : LoginTime}
    (h : op.transition = .authenticate profile time) : op.login? = some (profile, time) := by
  cases op <;> cases h <;> rfl

theorem events_of_login {profile : UserProfile} {time : LoginTime}
    (login : op.login? = some (profile, time)) : s.events op.transition = [authenticated profile] := by
  cases op <;> cases login <;> cases s <;> rfl

theorem notableEvents_of_login {profile : UserProfile} {time : LoginTime}
    (login : op.login? = some (profile, time)) :
    (notableEvents ops op).map LogEvent.permissionCount? = [some profile.permissions.size] := by
  rw [notableEvents, events_of_login login]
  rfl

end

/-- After any history of operations on a new session, whose logins happen at different times, the notable
events of the log tell the status and the user of the session at every moment, and there is one for each
operation that changed it and no other. -/
theorem log_faithful (ops : List Operation) (distinct : DistinctLogins ops) : Audited ops where
  replay _ := replay_log
  changing before op _ h := by
    rw [after_append_singleton] at h
    exact snapshot_apply_ne h
  idle before op hstart h := by
    rw [after_append_singleton] at h
    refine snapshot_apply_eq (fun profile time ht => ?_) h
    have hdistinct : DistinctLogins (before ++ [op]) := distinct.sublist (hstart.sublist.filterMap _)
    exact hdistinct.since?_ne (Operation.login?_of_transition ht)
  count before op _ profile time login separated := by
    rw [notableEvents_of_login login, separated.consistent.size_eq]
  countGranted before op _ profile time login names hnames := by
    rw [notableEvents_of_login login, hnames, PermissionSet.size_ofNames]

/-- The same user logs in twice with the same grants, one of them listed twice; in between the session expires,
and at the end it is cleared twice. -/
theorem log_faithful_relogin :
    let granted := PermissionSet.ofNames ["VIEW_MEMBERS", "VIEW_MEMBERS_2", "VIEW_MEMBERS"]
    let ops : List Operation := [.markExpired, .authenticate "admin" granted 1,
      .authenticateProfile ⟨"admin", [], granted⟩ 2, .markExpired, .markExpired, .clear, .clear]
    DistinctLogins ops ∧ Audited ops ∧
      log ops = [.expiryIgnored, .sessionAuthenticated "admin" 2 0, .sessionAuthenticated "admin" 2 0,
        .sessionExpired "admin", .sessionCleared "admin"] := by
  intro granted ops
  have distinct : DistinctLogins ops := by decide
  exact ⟨distinct, log_faithful ops distinct, by decide⟩

end Session

end AdminConsole
