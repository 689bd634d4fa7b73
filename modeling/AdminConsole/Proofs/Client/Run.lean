import AdminConsole.Proofs.Client.Transition

/-!
# Runs

How runs are put together and taken apart, and what is read off the trace of a run: what a task has
asked, what it has heard, and the times of the logins. `Run.induction` goes along a run from its
start, which is how a statement about a state and the trace that led to it is carried.
-/

namespace AdminConsole.Client

/-- The events of a run with their effects. -/
abbrev Trace := List (Event × List Effect)

/-! ## Reading a trace -/

/-- What a task asks the provider in a list of effects. -/
def asksIn (task : Task) (effects : List Effect) : List Ask :=
  effects.filterMap fun
    | .asked t a => if t = task then some a else none
    | _ => none

/-- What a task has asked the provider, in order. -/
def asksOf (task : Task) (trace : Trace) : List Ask := trace.flatMap fun x => asksIn task x.2

/-- What a task hears in an event. -/
def heardIn (task : Task) (e : Event) : Option Answer :=
  match e.heard? with
  | some (t, a) => if t = task then some a else none
  | none => none

/-- What a task has heard from the provider, in order. -/
def heardBy (task : Task) (trace : Trace) : List Answer := trace.filterMap fun x => heardIn task x.1

/-- Whether a call is made in an event. -/
def Event.isStart : Event → Bool
  | .start .. => true
  | _ => false

/-- The time of the login that an event brings about. -/
def Event.loginTime? : Event → Option LoginTime
  | .adopt _ time => some time
  | _ => none

/-- The times of the logins of a trace, in order. -/
def loginTimes (trace : Trace) : List LoginTime := trace.filterMap fun x => x.1.loginTime?

section
variable {task : Task} {trace trace' : Trace} {e : Event} {effects effects' : List Effect}

theorem mem_asksIn {a : Ask} : a ∈ asksIn task effects ↔ .asked task a ∈ effects := by
  unfold asksIn
  rw [List.mem_filterMap]
  constructor
  · rintro ⟨effect, hmem, heq⟩
    cases effect with
    | asked t b =>
      by_cases ht : t = task
      · subst ht
        cases (if_pos rfl).symm.trans heq
        exact hmem
      · cases (if_neg ht).symm.trans heq
    | _ => cases heq
  · intro hmem
    exact ⟨_, hmem, if_pos rfl⟩

@[simp] theorem asksIn_nil : asksIn task [] = [] := rfl

@[simp] theorem asksIn_append :
    asksIn task (effects ++ effects') = asksIn task effects ++ asksIn task effects' :=
  List.filterMap_append

@[simp] theorem asksIn_logged {events : List LogEvent} : asksIn task (logged events) = [] := by
  simp [asksIn, logged]

@[simp] theorem asksIn_logged_cons {event : LogEvent} :
    asksIn task (.logged event :: effects) = asksIn task effects := rfl

@[simp] theorem asksIn_woken_cons {t : Task} :
    asksIn task (.woken t :: effects) = asksIn task effects := rfl

@[simp] theorem asksIn_asked_self {a : Ask} : asksIn task [.asked task a] = [a] := by
  simp [asksIn]

theorem asksIn_asked_of_ne {t : Task} {a : Ask} (h : t ≠ task) : asksIn task [.asked t a] = [] := by
  simp [asksIn, h]

@[simp] theorem asksIn_wakeNext {s : State} : asksIn task s.wakeNext = [] := by
  unfold State.wakeNext
  split <;> rfl

@[simp] theorem asksIn_letGo {s : State} : asksIn task s.letGo.2 = [] := by
  obtain h | ⟨-, p, -, h⟩ := State.letGo_cases (s := s)
  all_goals rw [h]; rfl

@[simp] theorem asksIn_install {s : State} {c : Nat} : asksIn task (s.install c).2 = [] := by
  show asksIn task (.woken _ :: State.wakeNext _) = []
  rw [asksIn_woken_cons, asksIn_wakeNext]

@[simp] theorem asksIn_endPoller {s : State} {p : Nat} {events : List LogEvent} :
    asksIn task (s.endPoller p events).2 = [] := by
  show asksIn task (logged _ ++ List.map _ _ ++ (State.letGo _).2) = []
  simp only [asksIn_append, asksIn_logged, asksIn_letGo, List.append_nil, List.nil_append]
  simp [asksIn]

@[simp] theorem asksIn_adopt {s : State} {c : Nat} {user : UserData} {time : LoginTime} :
    asksIn task (s.adopt c user time).2 = [] := by
  show asksIn task (logged _) = []
  rw [asksIn_logged]

@[simp] theorem asksIn_failure {r : Request} {error : AuthError} : asksIn task (r.failure error) = [] := by
  cases r <;> rfl

@[simp] theorem asksOf_append : asksOf task (trace ++ trace') = asksOf task trace ++ asksOf task trace' :=
  List.flatMap_append

@[simp] theorem heardBy_append :
    heardBy task (trace ++ trace') = heardBy task trace ++ heardBy task trace' :=
  List.filterMap_append

@[simp] theorem loginTimes_append : loginTimes (trace ++ trace') = loginTimes trace ++ loginTimes trace' :=
  List.filterMap_append

theorem asksOf_singleton : asksOf task [(e, effects)] = asksIn task effects := by simp [asksOf]

theorem heardBy_singleton : heardBy task [(e, effects)] = (heardIn task e).toList := by
  cases h : heardIn task e <;> simp [heardBy, h]

theorem loginTimes_singleton : loginTimes [(e, effects)] = e.loginTime?.toList := by
  cases h : e.loginTime? <;> simp [loginTimes, h]

theorem heardIn_of_heard? {a : Answer} (h : e.heard? = some (task, a)) : heardIn task e = some a := by
  simp [heardIn, h]

theorem heardIn_of_ne_actor (h : e.actor? ≠ some task) : heardIn task e = none := by
  unfold heardIn
  split
  · rename_i t a heard
    rw [if_neg]
    rintro rfl
    exact h (Event.actor?_of_heard? heard)
  · rfl

end

/-- Only the task that an event belongs to asks anything in it. -/
theorem State.Step.asksIn_of_ne_actor {s t : State} {task : Task} {e : Event} {effects : List Effect}
    (h : s.Step e t effects) (hne : e.actor? ≠ some task) : asksIn task effects = [] := by
  have hother : ∀ {t' : Task}, e.actor? = some t' → t' ≠ task := by
    rintro t' ht rfl
    exact hne ht
  cases h
  case askUser | callChecks | pollerChecks => exact asksIn_asked_of_ne (hother rfl)
  case askLogoutStopped => rw [asksIn_append, asksIn_logged, asksIn_asked_of_ne (hother rfl)]; rfl
  case askLogout => rw [asksIn_append, asksIn_wakeNext, asksIn_asked_of_ne (hother rfl)]; rfl
  all_goals simp

/-! ## Putting runs together and taking them apart -/

namespace Run

variable {s t u : State} {l r : Trace} {e : Event} {effects : List Effect}

theorem append (h : Run s l t) (h' : Run t r u) : Run s (l ++ r) u := by
  induction h with
  | nil => exact h'
  | cons step _ ih => exact .cons step (ih h')

theorem exists_of_append (h : Run s (l ++ r) u) : ∃ t, Run s l t ∧ Run t r u := by
  induction l generalizing s with
  | nil => exact ⟨s, .nil, h⟩
  | cons x l ih =>
    cases h with
    | cons step rest =>
      obtain ⟨t, hl, hr⟩ := ih rest
      exact ⟨t, .cons step hl, hr⟩

/-- A trace leads to one state only. -/
theorem unique (h : Run s l t) (h' : Run s l u) : t = u := by
  induction h with
  | nil =>
    cases h'
    rfl
  | cons step _ ih =>
    cases h' with
    | cons step' rest' =>
      cases step.symm.trans step'
      exact ih rest'

theorem singleton (h : s.step? e = some (t, effects)) : Run s [(e, effects)] t := .cons h .nil

/-- What holds at the start with the empty trace and is kept by every step holds at the end with the
whole trace. -/
theorem induction {P : Trace → State → Prop} (h : Run s l u) (start : P [] s)
    (step : ∀ {l t e u effects}, Run s l t → P l t → t.step? e = some (u, effects) →
      P (l ++ [(e, effects)]) u) :
    P l u := by
  suffices ∀ {pre rest : Trace} {t : State}, Run s pre t → P pre t → Run t rest u → P (pre ++ rest) u
    from this .nil start h
  intro pre rest t hpre hP hrest
  induction rest generalizing pre t with
  | nil => cases hrest; simpa using hP
  | cons x rest ih =>
    cases hrest with
    | cons hstep hrest =>
      have := ih (hpre.append (.singleton hstep)) (step hpre hP hstep) hrest
      simpa using this

/-- A run leaves the configuration as it is. -/
theorem config_eq (h : Run s l t) : t.config = s.config :=
  h.induction (P := fun _ t => t.config = s.config) rfl fun _ ih step =>
    (State.Step.of_step? step).config.trans ih

theorem now_le (h : Run s l t) : s.now ≤ t.now :=
  h.induction (P := fun _ t => s.now ≤ t.now) (Nat.le_refl _) fun _ ih step =>
    Nat.le_trans ih (State.Step.of_step? step).now_le

/-- A call that is done stays as it is. -/
theorem call?_of_done {c : Nat} {q : Request} {o : Outcome} (h : Run s l t)
    (hc : s.call? c = some ⟨q, .done o⟩) :
    t.call? c = some ⟨q, .done o⟩ ∧ ∀ x ∈ l, x.1.actor? ≠ some (.call c) := by
  refine h.induction (P := fun l t => t.call? c = some ⟨q, .done o⟩ ∧
    ∀ x ∈ l, x.1.actor? ≠ some (.call c)) ⟨hc, nofun⟩ ?_
  rintro l t e u effects - ⟨hdone, hother⟩ step
  have hne := (State.Step.of_step? step).actor?_ne_of_done hdone
  refine ⟨((State.Step.of_step? step).call?_of_ne_actor hne).trans hdone, fun x hx => ?_⟩
  rcases List.mem_append.1 hx with hx | hx
  · exact hother x hx
  · cases List.mem_singleton.1 hx
    exact hne

end Run

/-! ## Carrying out a run -/

/-- The run that takes the given events, if each can happen where it stands. -/
def State.follow? (s : State) : List Event → Option (Trace × State)
  | [] => some ([], s)
  | e :: events =>
    match s.step? e with
    | some (t, effects) => (t.follow? events).map fun (trace, u) => ((e, effects) :: trace, u)
    | none => none

/-- A login that nothing comes between. -/
def undisturbedLogin : List Event :=
  [.start 0 (.login ⟨"ada", "secret"⟩), .proceed (.call 0), .answer (.call 0) (.user ⟨"ada", [], []⟩),
    .adopt 0 7, .proceed (.call 0), .proceed (.call 0)]

theorem Run.of_follow? {s u : State} {events : List Event} {trace : Trace}
    (h : s.follow? events = some (trace, u)) : Run s trace u := by
  induction events generalizing s trace with
  | nil =>
    obtain ⟨rfl, rfl⟩ := Prod.mk.inj (Option.some.inj h)
    exact .nil
  | cons e events ih =>
    simp only [State.follow?] at h
    split at h
    · rename_i t effects hstep
      obtain ⟨⟨rest, u'⟩, hrest, heq⟩ := Option.map_eq_some_iff.1 h
      obtain ⟨rfl, rfl⟩ := Prod.mk.inj heq
      exact .cons hstep (ih hrest)
    · cases h

end AdminConsole.Client
