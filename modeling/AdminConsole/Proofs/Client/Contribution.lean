import AdminConsole.Proofs.Client.Run

/-!
# What a step contributes to the session

`State.contribution?` says which transition of the session an event brings about, and for which task;
`Step.session` says that nothing else changes the session. So the session after a run is the one
before it with all that the run contributed, in order (`Run.session`).
-/

namespace AdminConsole.Client

open Session (Transition)

/-- A transition of the session, and the task that brings it about. -/
structure Contribution where
  task : Task
  transition : Transition

/-- The transition that a check takes part in when it goes on. -/
def CheckPhase.transition? (x : Session) : CheckPhase → Option Transition
  | .judging login reply => if demotes x login reply then some .expire else none
  | _ => none

/-- The transition that a call brings about when it goes on. -/
def CallPhase.transition? (x : Session) : CallPhase → Option Transition
  | .clearing => some .clear
  | .checking phase => phase.transition? x
  | _ => none

/-- The transition that a poller brings about when it goes on. -/
def PollerPhase.transition? (x : Session) : PollerPhase → Option Transition
  | .checking _ phase => phase.transition? x
  | _ => none

/-- What an event contributes to the session. -/
def State.contribution? (s : State) : Event → Option Contribution
  | .adopt c time =>
    match s.callPhase? c with
    | some (.applying user) => some ⟨.call c, .authenticate user.profile time⟩
    | _ => none
  | .proceed (.call c) =>
    ((s.callPhase? c).bind (·.transition? s.session)).map (⟨.call c, ·⟩)
  | .proceed (.poller p) =>
    ((s.pollerPhase? p).bind (·.transition? s.session)).map (⟨.poller p, ·⟩)
  | _ => none

/-- The session after what an event has contributed, if anything. -/
def contribute (x : Session) : Option Contribution → Session
  | some k => x.apply k.transition
  | none => x

/-- What the events of a run contribute to the session, in order. -/
def contributions (s : State) : Trace → List Contribution
  | [] => []
  | (e, _) :: rest =>
    match s.step? e with
    | some (t, _) => (s.contribution? e).toList ++ contributions t rest
    | none => []

/-- The transition of a contribution, if it is the task's. -/
def Contribution.by? (task : Task) (k : Contribution) : Option Transition :=
  if k.task = task then some k.transition else none

/-- What a task contributes in an event. -/
def State.contributed (s : State) (e : Event) (task : Task) : List Transition :=
  ((s.contribution? e).bind (Contribution.by? task)).toList

/-- What a task contributes in a run. -/
def contributionsOf (task : Task) (s : State) (trace : Trace) : List Transition :=
  (contributions s trace).filterMap (Contribution.by? task)

variable {s t u : State} {e : Event} {effects : List Effect} {task : Task} {c p : Nat} {l r : Trace}

/-! ## One step -/

theorem contribution?_proceed_call {call : Call} (hc : s.call? c = some call) :
    s.contribution? (.proceed (.call c)) = (call.phase.transition? s.session).map (⟨.call c, ·⟩) := by
  rw [State.contribution?, State.callPhase?_of_call? hc, Option.bind_some]

theorem contribution?_proceed_poller {poller : Poller} (hp : s.pollers[p]? = some poller) :
    s.contribution? (.proceed (.poller p)) =
      (poller.phase.transition? s.session).map (⟨.poller p, ·⟩) := by
  rw [State.contribution?, State.pollerPhase?_of_getElem? hp, Option.bind_some]

theorem contribution?_adopt {r : Request} {user : UserData} {time : LoginTime}
    (hc : s.call? c = some ⟨r, .applying user⟩) :
    s.contribution? (.adopt c time) = some ⟨.call c, .authenticate user.profile time⟩ := by
  rw [State.contribution?, State.callPhase?_of_call? hc]

theorem contribution?_of_heard {a : Answer} (heard : e.heard? = some (task, a)) :
    s.contribution? e = none := by
  cases e <;> first | cases heard; done | rfl

/-- A check that acts on what it has heard expires the session or leaves it as it is. -/
theorem judge_eq_contribute {x : Session} {login : LoginTime} {reply : Reply RemoteStatus} :
    judge x login reply =
      contribute x (((CheckPhase.judging login reply).transition? x).map (⟨task, ·⟩)) := by
  show _ = contribute x (Option.map _ (if demotes x login reply then some Transition.expire else none))
  unfold judge
  cases demotes x login reply <;> rfl

/-- The session changes by the contribution of the event, and by nothing else. -/
theorem State.Step.session (h : s.Step e t effects) :
    t.session = contribute s.session (s.contribution? e) := by
  cases h
  case askUser call _ | lineUp call _ | lineUpAdopted call | callFindsNone call _ | callChecks call _
      | tellPolling call _ | askLogout call _ _ | takeOut call _ _ | install call _ _ _ _
      | replace call _ _ _ _ | askLogoutStopped call _ | installStopped call _ _ =>
    rw [contribution?_proceed_call call]; rfl
  case clear call => rw [contribution?_proceed_call call]; rfl
  case adopt call => rw [contribution?_adopt call]; rfl
  case callJudges call =>
    rw [contribution?_proceed_call call]
    exact judge_eq_contribute
  case pollerGoesOn poller _ =>
    rw [contribution?_proceed_poller poller, State.session_letGo]
    exact judge_eq_contribute
  case pollerEnds poller _ =>
    rw [contribution?_proceed_poller poller, State.session_endPoller]
    exact judge_eq_contribute
  case pollerFindsNone poller _ =>
    rw [contribution?_proceed_poller poller, State.session_endPoller]; rfl
  case settleFails poller _ =>
    rw [contribution?_proceed_poller poller, State.session_endPoller]; rfl
  case settle poller _ | pollerChecks poller _ =>
    rw [contribution?_proceed_poller poller]; rfl
  case hearUser heard _ | hearNoUser heard _ | hearLogout heard _ | hearNoLogout heard _
      | callHears heard _ | pollerHears heard _ =>
    rw [contribution?_of_heard heard]; rfl
  case abandon | shutdown | tickFails => exact State.session_endPoller
  case drop => exact State.session_letGo
  all_goals rfl

/-- A session has a login to ask about exactly if it is alive. -/
theorem loginOf?_eq_none_iff {x : Session} : loginOf? x = none ↔ x.isAlive = false := by
  cases x <;> exact ⟨fun h => by cases h <;> rfl, fun h => by cases h <;> rfl⟩

theorem demotes_eq_true_iff {x : Session} {login : LoginTime} {reply : Reply RemoteStatus} :
    demotes x login reply = true ↔ speaksAgainst reply = true ∧ loginOf? x = some login := by
  simp [demotes]

/-- A session that a check demotes is no longer alive. -/
theorem isAlive_judge_of_demotes {x : Session} {login : LoginTime} {reply : Reply RemoteStatus}
    (h : demotes x login reply = true) : (judge x login reply).isAlive = false := by
  obtain ⟨-, halive⟩ := demotes_eq_true_iff.1 h
  rw [judge, if_pos h]
  cases x with
  | alive profile since => rfl
  | unauthenticated => cases halive
  | expired username since => cases halive

/-- The three ways in which an event contributes to the session. -/
inductive State.Contributes (s : State) : Event → Contribution → Prop where
  | authenticate {c : Nat} {r : Request} {user : UserData} {time : LoginTime}
      (call : s.call? c = some ⟨r, .applying user⟩) :
    Contributes s (.adopt c time) ⟨.call c, .authenticate user.profile time⟩
  | clear {c : Nat} {r : Request} (call : s.call? c = some ⟨r, .clearing⟩) :
    Contributes s (.proceed (.call c)) ⟨.call c, .clear⟩
  | expire {task : Task} {login : LoginTime} {reply : Reply RemoteStatus}
      (check : s.checkPhase? task = some (.judging login reply))
      (against : demotes s.session login reply = true) :
    Contributes s (.proceed task) ⟨task, .expire⟩

theorem CheckPhase.of_transition? {x : Session} {phase : CheckPhase} {τ : Transition}
    (h : phase.transition? x = some τ) :
    τ = .expire ∧ ∃ login reply, phase = .judging login reply ∧ demotes x login reply = true := by
  cases phase with
  | judging login reply =>
    simp only [CheckPhase.transition?] at h
    split at h <;> cases h
    exact ⟨rfl, login, reply, rfl, ‹_›⟩
  | opening => cases h
  | asking login d => cases h

theorem State.Contributes.of_contribution? {k : Contribution} (h : s.contribution? e = some k) :
    s.Contributes e k := by
  cases e with
  | adopt c time =>
    simp only [State.contribution?] at h
    split at h <;> cases h
    rename_i user hphase
    obtain ⟨⟨r, phase⟩, call, rfl⟩ := Option.map_eq_some_iff.1 hphase
    exact .authenticate call
  | proceed task =>
    cases task with
    | call c =>
      obtain ⟨τ, hτ, rfl⟩ := Option.map_eq_some_iff.1 h
      obtain ⟨phase, hphase, hτ⟩ := Option.bind_eq_some_iff.1 hτ
      obtain ⟨⟨r, phase⟩, call, rfl⟩ := Option.map_eq_some_iff.1 hphase
      cases phase with
      | clearing => cases hτ; exact .clear call
      | checking phase =>
        obtain ⟨rfl, login, reply, rfl, against⟩ := CheckPhase.of_transition? hτ
        exact .expire (State.checkPhase?_call_iff.2 ⟨r, call⟩) against
      | _ => cases hτ
    | poller p =>
      obtain ⟨τ, hτ, rfl⟩ := Option.map_eq_some_iff.1 h
      obtain ⟨phase, hphase, hτ⟩ := Option.bind_eq_some_iff.1 hτ
      obtain ⟨⟨phase, signalled⟩, hp, rfl⟩ := Option.map_eq_some_iff.1 hphase
      cases phase with
      | checking next phase =>
        obtain ⟨rfl, login, reply, rfl, against⟩ := CheckPhase.of_transition? hτ
        exact .expire (State.checkPhase?_poller_iff.2 ⟨next, signalled, hp⟩) against
      | _ => cases hτ
  | _ => cases h

/-- A contribution is made by the task that the event belongs to. -/
theorem State.Contributes.actor? {k : Contribution} (h : s.Contributes e k) : e.actor? = some k.task := by
  cases h <;> rfl

/-- A login has the time of the event that brings it about. -/
theorem State.Contributes.loginTime? {profile : UserProfile} {time : LoginTime}
    (h : s.Contributes e ⟨task, .authenticate profile time⟩) : e.loginTime? = some time := by
  cases h; rfl

theorem contributed_of_ne_actor (h : e.actor? ≠ some task) : s.contributed e task = [] := by
  unfold State.contributed
  cases hk : s.contribution? e with
  | none => rfl
  | some k =>
    have hne : k.task ≠ task := fun heq => h (heq ▸ (State.Contributes.of_contribution? hk).actor?)
    simp [Contribution.by?, hne]

theorem contributed_of_none (h : s.contribution? e = none) : s.contributed e task = [] := by
  simp [State.contributed, h]

theorem contributed_of_some {τ : Transition} (h : s.contribution? e = some ⟨task, τ⟩) :
    s.contributed e task = [τ] := by
  simp [State.contributed, h, Contribution.by?]

/-! ## A whole run -/

theorem contributions_append (h : Run s l t) :
    contributions s (l ++ r) = contributions s l ++ contributions t r := by
  induction h with
  | nil => rfl
  | cons step _ ih => simp only [List.cons_append, contributions, step, ih, List.append_assoc]

theorem contributions_step (h : s.step? e = some (t, effects)) :
    contributions s [(e, effects)] = (s.contribution? e).toList := by
  simp [contributions, h]

theorem contributionsOf_step (h : Run s l t) (step : t.step? e = some (u, effects)) :
    contributionsOf task s (l ++ [(e, effects)]) = contributionsOf task s l ++ t.contributed e task := by
  unfold contributionsOf State.contributed
  rw [contributions_append h, contributions_step step, List.filterMap_append]
  cases t.contribution? e <;> rfl

/-- The session after a run is the one before it with all that the run contributed. -/
theorem Run.session (h : Run s l t) :
    t.session = s.session.run ((contributions s l).map Contribution.transition) := by
  induction h with
  | nil => rfl
  | @cons s t u e effects rest step _ ih =>
    have hstep := (State.Step.of_step? step).session
    simp only [contributions, step]
    rw [ih, List.map_append, Session.run_append]
    cases hk : s.contribution? e with
    | none => rw [hk] at hstep; rw [hstep]; rfl
    | some k => rw [hk] at hstep; rw [hstep]; rfl

end AdminConsole.Client
