import AdminConsole.Access

/-!
# Operations on a session

What the owner of a session does with it, one call after the other: record a login, with the user's
roles or without, mark the session expired, clear it. Each comes down to one transition, and a history
of operations takes a new session to `Session.after` it.

A `Snapshot` is what a session shows at one moment: the record of five fields that each transition builds
anew (`Snapshot.apply`). The session itself goes through the same records (`snapshot_run`).

| here | there |
| --- | --- |
| `Operation` | `Session::authenticate`, `authenticate_profile`, `mark_expired`, `clear` |
| `Snapshot` | `SessionState` |
| `Snapshot.initial`, `Snapshot.alive`, `Snapshot.expired` | `SessionState::default`, `alive`, `expired` |
-/

namespace AdminConsole.Session

/-- A call on a session. A login happens at a time of its own. -/
inductive Operation where
  /-- Records a login of a user without roles. -/
  | authenticate (username : String) (granted : PermissionSet) (time : LoginTime)
  | authenticateProfile (profile : UserProfile) (time : LoginTime)
  | markExpired
  | clear
deriving DecidableEq, Repr

namespace Operation

/-- The user and the time of a login. -/
def login? : Operation → Option (UserProfile × LoginTime)
  | authenticate username granted time => some (⟨username, [], granted⟩, time)
  | authenticateProfile profile time => some (profile, time)
  | markExpired => none
  | clear => none

def transition : Operation → Transition
  | authenticate username granted time => .authenticate ⟨username, [], granted⟩ time
  | authenticateProfile profile time => .authenticate profile time
  | markExpired => .expire
  | clear => .clear

end Operation

/-- A new session after a history of operations. -/
def after (ops : List Operation) : Session := unauthenticated.run (ops.map Operation.transition)

@[simp] theorem after_nil : after [] = unauthenticated := rfl

theorem after_append_singleton {ops : List Operation} {op : Operation} :
    after (ops ++ [op]) = (after ops).apply op.transition := by
  simp [after, run_append]

/-- What a session shows at one moment. -/
structure Snapshot where
  status : SessionStatus
  username : Option String
  roles : List Role
  permissions : PermissionSet
  /-- The time of the login that the session stems from. -/
  since : Option LoginTime
deriving DecidableEq, Repr

def snapshot (s : Session) : Snapshot where
  status := s.status
  username := s.username?
  roles := s.roles
  permissions := s.permissions
  since := s.since?

namespace Snapshot

/-- What a new session shows. -/
def initial : Snapshot := ⟨.unauthenticated, none, [], .empty, none⟩

/-- What a session shows after a login. -/
def alive (profile : UserProfile) (since : LoginTime) : Snapshot :=
  ⟨.alive, some profile.username, profile.roles, profile.permissions, some since⟩

/-- What is left to show of a login that has expired. -/
def expired (username : Option String) (since : Option LoginTime) : Snapshot :=
  { initial with status := .expired, username := username, since := since }

/-- The record after a transition. -/
def apply (x : Snapshot) : Transition → Snapshot
  | .authenticate profile time => alive profile time
  | .expire =>
    match x.status with
    | .alive => expired x.username x.since
    | .expired | .unauthenticated => x
  | .clear => initial

end Snapshot

theorem snapshot_apply {s : Session} {t : Transition} : (s.apply t).snapshot = s.snapshot.apply t := by
  cases s with
  | unauthenticated | alive profile since | expired username since => cases t <;> rfl

/-- A session shows the records that the transitions build. -/
theorem snapshot_run {s : Session} {ts : List Transition} :
    (s.run ts).snapshot = ts.foldl Snapshot.apply s.snapshot := by
  induction ts generalizing s with
  | nil => rfl
  | cons t ts ih => rw [run_cons, ih, snapshot_apply, List.foldl_cons]

end AdminConsole.Session
