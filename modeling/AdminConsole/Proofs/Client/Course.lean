import AdminConsole.Proofs.Client.Sequential

/-!
# Fair courses

A course is a run without end. It is fair if a task that can go on, or that the provider owes an answer or a
time-out, is not passed over for ever, and if a poller that was told to stop does not put its ticks first
for ever. Fairness is a premise: the steps of a client do not promise it. On a fair course a task leaves a
phase in which it stays active (`Fair.exists_event`), so that a poller that was told to stop finishes
(`Fair.exists_finished`).
-/

namespace AdminConsole.Client

/-- A run without end. -/
structure Course where
  state : Nat → State
  event : Nat → Event
  effects : Nat → List Effect
  step : ∀ n, (state n).step? (event n) = some (state (n + 1), effects n)

/-- A task can take a step by itself, or waits for the provider. -/
def State.Active (s : State) (task : Task) : Prop := s.CanStep task ∨ ∃ d, s.deadline? task = some d

/-- How many steps a poller that was told to stop is at most from its end, if no tick comes first. -/
def PollerPhase.stepsToEnd : PollerPhase → Nat
  | .finished => 0
  | .waiting _ => 1
  | .spawned | .checking _ (.judging ..) => 2
  | .checking _ (.asking ..) => 3
  | .checking _ .opening => 4

namespace Course

/-- Nobody is passed over for ever. -/
structure Fair (σ : Course) : Prop where
  /-- A task that stays active goes on, or hears from the provider or that time is up. -/
  tasks : ∀ task n, (∀ k, n ≤ k → (σ.state k).Active task) → ∃ k, n ≤ k ∧ (σ.event k).actor? = some task
  /-- A poller that comes to wait again and again although it was told to stop heeds that at some time. -/
  stops : ∀ p n, (∀ m, n ≤ m → ∃ k next, m ≤ k ∧ (σ.state k).pollers[p]? = some ⟨.waiting next, true⟩) →
    ∃ k, n ≤ k ∧ σ.event k = .shutdown p

/-- Each call is made when all earlier ones are done. -/
def Sequential (σ : Course) : Prop := ∀ n, (σ.event n).isStart = true → (σ.state n).isIdle = true

variable {σ : Course} {s t : State} {e : Event} {effects : List Effect} {task : Task} {p n k : Nat}
  {l : Trace}

/-! ## Along a course -/

theorem exists_run (σ : Course) (hk : n ≤ k) : ∃ l, Run (σ.state n) l (σ.state k) := by
  induction hk with
  | refl => exact ⟨[], .nil⟩
  | step _ ih =>
    obtain ⟨l, hl⟩ := ih
    exact ⟨_, hl.append (.singleton (σ.step _))⟩

theorem solo (seq : σ.Sequential) (solo : (σ.state n).Solo) (hk : n ≤ k) : (σ.state k).Solo := by
  induction hk with
  | refl => exact solo
  | @step k _ ih => exact (State.Step.of_step? (σ.step k)).solo ih (seq k)

theorem isSignalled (hp : (σ.state n).isSignalled p = true) (hk : n ≤ k) :
    (σ.state k).isSignalled p = true := by
  induction hk with
  | refl => exact hp
  | @step k _ ih => exact (State.Step.of_step? (σ.step k)).isSignalled ih

theorem pollerPhase?_finished (hp : (σ.state n).pollerPhase? p = some .finished) (hk : n ≤ k) :
    (σ.state k).pollerPhase? p = some .finished := by
  induction hk with
  | refl => exact hp
  | @step k _ ih =>
    have hstep := State.Step.of_step? (σ.step k)
    exact hstep.pollerPhase?_of_ne_actor (hstep.actor?_ne_of_finished ih) ih

/-! ## What fairness brings about -/

/-- What only its own events can end, a task ends at some time if it would make the task active for good. -/
theorem Fair.exists_event (fair : σ.Fair) {P : State → Prop} (holds : P (σ.state n))
    (stays : ∀ k, n ≤ k → P (σ.state k) → (σ.event k).actor? ≠ some task → P (σ.state (k + 1)))
    (active : (∀ k, n ≤ k → P (σ.state k)) → ∃ m, n ≤ m ∧ ∀ k, m ≤ k → (σ.state k).Active task) :
    ∃ k, n ≤ k ∧ P (σ.state k) ∧ (σ.event k).actor? = some task := by
  refine Classical.byContradiction fun hnever => ?_
  have always : ∀ k, n ≤ k → P (σ.state k) := by
    intro k hk
    induction hk with
    | refl => exact holds
    | @step k hk ih => exact stays k hk ih fun hactor => hnever ⟨k, hk, ih, hactor⟩
  obtain ⟨m, hm, hactive⟩ := active always
  obtain ⟨k, hk, hactor⟩ := fair.tasks task m hactive
  exact hnever ⟨k, Nat.le_trans hm hk, always k (Nat.le_trans hm hk), hactor⟩

/-- A poller comes nearer to its end with every step but a tick, which it waits for. -/
theorem stepsToEnd_lt_or_tick {phase : PollerPhase} (h : s.Step e t effects)
    (hactor : e.actor? = some (.poller p)) (hp : s.pollerPhase? p = some phase) :
    ∃ phase', t.pollerPhase? p = some phase' ∧
      (phase'.stepsToEnd < phase.stepsToEnd ∨ (∃ next, phase = .waiting next) ∧ e = .tick p) := by
  obtain ⟨_, phase', _, hbefore, hafter, -, step⟩ := h.pollerStep hactor
  cases hbefore.symm.trans hp
  refine ⟨phase', hafter, ?_⟩
  cases step with
  | tick | abandon | tickFails => exact Or.inr ⟨⟨_, rfl⟩, rfl⟩
  | shutdown => exact Or.inl (by decide : 0 < 1)
  | settle | goesOn => exact Or.inl (by decide : 1 < 2)
  | findsNone => exact Or.inl (by decide : 0 < 4)
  | checks => exact Or.inl (by decide : 3 < 4)
  | hears => exact Or.inl (by decide : 2 < 3)
  | settleFails | ends => exact Or.inl (by decide : 0 < 2)

/-- A poller that was told to stop and does not finish comes to wait for a tick again and again. -/
theorem Fair.exists_waiting (fair : σ.Fair) (signalled : ∀ k, n ≤ k → (σ.state k).isSignalled p = true)
    (running : ∀ k, n ≤ k → (σ.state k).hasFinished p = false) (m : Nat) (hm : n ≤ m) :
    ∃ k next, m ≤ k ∧ (σ.state k).pollers[p]? = some ⟨.waiting next, true⟩ := by
  obtain ⟨phase, hp, -⟩ := State.hasFinished_eq_false_iff.1 (running m hm)
  induction hsteps : phase.stepsToEnd using Nat.strongRecOn generalizing m phase with
  | ind steps ih =>
    by_cases hwaiting : ∃ next, phase = .waiting next
    · obtain ⟨next, rfl⟩ := hwaiting
      obtain ⟨⟨phase, signal⟩, hpoller, rfl⟩ := Option.map_eq_some_iff.1 hp
      have hsignal : signal = true := (State.isSignalled_of_getElem? hpoller).symm.trans (signalled m hm)
      subst hsignal
      exact ⟨m, next, Nat.le_refl m, hpoller⟩
    · obtain ⟨k, hk, hphase, hactor⟩ := fair.exists_event (P := fun s => s.pollerPhase? p = some phase) hp
        (fun k _ hphase hother => (State.Step.of_step? (σ.step k)).pollerPhase?_of_ne_actor hother hphase)
        fun _ => ⟨m, Nat.le_refl m, fun k hk =>
          canStep_of_signalled (running k (Nat.le_trans hm hk)) (signalled k (Nat.le_trans hm hk))⟩
      obtain ⟨phase', hafter, hlt | ⟨hwaits, -⟩⟩ :=
        stepsToEnd_lt_or_tick (State.Step.of_step? (σ.step k)) hactor hphase
      case inr => exact absurd hwaits hwaiting
      have hm' : m ≤ k + 1 := Nat.le_succ_of_le hk
      obtain ⟨k', next, hk', hpoller⟩ :=
        ih _ (hsteps ▸ hlt) (k + 1) (Nat.le_trans hm hm') phase' hafter rfl
      exact ⟨k', next, Nat.le_trans hm' hk', hpoller⟩

/-- A poller that was told to stop finishes. -/
theorem Fair.exists_finished (fair : σ.Fair) (signalled : (σ.state n).isSignalled p = true) :
    ∃ k, n ≤ k ∧ (σ.state k).pollerPhase? p = some .finished := by
  refine Classical.byContradiction fun hnever => ?_
  have running : ∀ k, n ≤ k → (σ.state k).hasFinished p = false := by
    intro k hk
    obtain ⟨phase, hphase⟩ := State.exists_phase_of_isSignalled (isSignalled signalled hk)
    refine State.hasFinished_eq_false_iff.2 ⟨phase, hphase, ?_⟩
    rintro rfl
    exact hnever ⟨k, hk, hphase⟩
  obtain ⟨k, hk, hevent⟩ :=
    fair.stops p n (fair.exists_waiting (fun k hk => isSignalled signalled hk) running)
  have hactor : (σ.event k).actor? = some (.poller p) := by rw [hevent]; rfl
  obtain ⟨_, _, _, -, hafter, -, step⟩ := (State.Step.of_step? (σ.step k)).pollerStep hactor
  rw [hevent] at step
  cases step with
  | shutdown => exact hnever ⟨k + 1, Nat.le_succ_of_le hk, hafter⟩
  | hears heard => cases heard

/-! ## There are fair courses -/

/-- Nobody is active in a client in which every call is done and every poller has finished. -/
theorem not_active (closed : ∀ c call, s.call? c = some call → call.isOpen = false)
    (finished : ∀ p, s.hasFinished p = true) : ¬s.Active task := by
  have hended : ∀ {p phase}, s.pollerPhase? p = some phase → phase = .finished := by
    intro p phase hp
    refine Classical.byContradiction fun hne => ?_
    cases (finished p).symm.trans (State.hasFinished_eq_false_of_phase hp hne)
  rintro (⟨e, t, effects, hactor, hstart, -, step⟩ | ⟨d, hd⟩)
  · cases task with
    | call c =>
      obtain ⟨r, rfl, -⟩ | ⟨call, _, _, hc, -, -, step⟩ := (State.Step.of_step? step).callStep hactor
      · cases hstart
      · have hdone := closed c call hc
        cases step <;> cases hdone
    | poller p =>
      obtain ⟨phase, _, _, hp, -, -, step⟩ := (State.Step.of_step? step).pollerStep hactor
      cases hended hp
      cases step
  · cases task with
    | call c =>
      obtain ⟨r, hc | ⟨login, hc⟩⟩ := State.deadline?_call_iff.1 hd <;> cases closed c _ hc
    | poller p =>
      obtain ⟨next, login, hp⟩ := State.deadline?_poller_iff.1 hd
      cases hended hp

/-- Nothing happens any more. -/
def rest (s : State) : Course := ⟨fun _ => s, fun _ => .elapse 0, fun _ => [], fun _ => rfl⟩

/-- An event comes first. -/
def cons (σ : Course) (step : s.step? e = some (σ.state 0, effects)) : Course where
  state
    | 0 => s
    | n + 1 => σ.state n
  event
    | 0 => e
    | n + 1 => σ.event n
  effects
    | 0 => effects
    | n + 1 => σ.effects n
  step
    | 0 => step
    | n + 1 => σ.step n

theorem fair_rest (quiet : ∀ task, ¬s.Active task) : (rest s).Fair where
  tasks task n active := absurd (active n (Nat.le_refl n)) (quiet task)
  stops p n waiting := by
    obtain ⟨k, next, -, hp⟩ := waiting n (Nat.le_refl n)
    exact absurd (Or.inl ⟨_, _, _, rfl, rfl, rfl, step?_shutdown hp⟩) (quiet (.poller p))

theorem Fair.cons (fair : σ.Fair) (step : s.step? e = some (σ.state 0, effects)) :
    (σ.cons step).Fair where
  tasks task n active := by
    obtain ⟨k, hk, hactor⟩ := fair.tasks task n fun k hk => active (k + 1) (Nat.le_succ_of_le hk)
    exact ⟨k + 1, Nat.le_succ_of_le hk, hactor⟩
  stops p n waiting := by
    have hwaiting : ∀ m, n ≤ m → ∃ k next, m ≤ k ∧ (σ.state k).pollers[p]? = some ⟨.waiting next, true⟩ := by
      intro m hm
      obtain ⟨k, next, hk, hp⟩ := waiting (m + 1) (Nat.le_succ_of_le hm)
      cases k with
      | zero => cases hk
      | succ k => exact ⟨k, next, Nat.le_of_succ_le_succ hk, hp⟩
    obtain ⟨k, hk, hevent⟩ := fair.stops p n hwaiting
    exact ⟨k + 1, Nat.le_succ_of_le hk, hevent⟩

end Course

/-- A run that leaves nobody active, and in which nobody makes a call, is the beginning of a fair course. -/
theorem Run.exists_course {s t : State} {l : Trace} (h : Run s l t) (quiet : ∀ task, ¬t.Active task)
    (unmade : ∀ x ∈ l, x.1.isStart = false) :
    ∃ σ : Course, σ.state 0 = s ∧ σ.Fair ∧ σ.Sequential := by
  induction h with
  | nil => exact ⟨.rest _, rfl, Course.fair_rest quiet, nofun⟩
  | cons step _ ih =>
    obtain ⟨σ, rfl, fair, seq⟩ := ih quiet fun x hx => unmade x (List.mem_cons_of_mem _ hx)
    refine ⟨σ.cons step, rfl, fair.cons step, fun n hstart => ?_⟩
    cases n with
    | zero => cases (unmade _ List.mem_cons_self).symm.trans hstart
    | succ n => exact seq n hstart

end AdminConsole.Client
