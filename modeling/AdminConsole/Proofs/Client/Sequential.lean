import AdminConsole.Proofs.Client.Enabled
import AdminConsole.Proofs.Client.Exclusive

/-!
# Calls that do not overlap

In a sequential run every call is made when all earlier ones are done, while pollers run as they like. Then
a call that is open has the slot to itself, and a logout that has taken the poller out of the slot finds
nothing left to stop: from its request to the provider on, every poller has finished and the slot is empty
(`Run.still_of_asked`). The client stays still until a login or a refresh returns (`Run.still_step`).
-/

namespace AdminConsole.Client

/-- Whether each call is made when all earlier ones are done. -/
def isSequential (s : State) : Trace → Bool
  | [] => true
  | (e, _) :: rest =>
    (!e.isStart || s.isIdle) &&
      match s.step? e with
      | some (t, _) => isSequential t rest
      | none => true

namespace State

/-- One call is open at most. -/
def Solo (s : State) : Prop :=
  ∀ {c d call call'}, s.call? c = some call → call.isOpen = true → s.call? d = some call' →
    call'.isOpen = true → c = d

/-- No poller runs, and the slot is empty. -/
structure Still (s : State) : Prop where
  finished : ∀ p, s.hasFinished p = true
  empty : s.slot.poller = none

/-- A login or a refresh that has adopted and has not returned. -/
def Adopted (s : State) (c : Nat) (r : Request) : Prop :=
  (∃ a, r.userAsk? = some a) ∧
    ∃ phase, s.call? c = some ⟨r, phase⟩ ∧ (phase = .adopted ∨ phase.atSlot = true)

variable {s t : State} {e : Event} {effects : List Effect} {c d p q : Nat} {r : Request} {a : Ask}
  {task : Task}

/-! ## One call at a time -/

/-- A call that is open was open before, or has just been made. -/
theorem Step.isOpen_before {call : Call} (h : s.Step e t effects) (hc : t.call? c = some call)
    (isOpen : call.isOpen = true) :
    e = .start c call.request ∨
    ∃ call', s.call? c = some call' ∧ call'.isOpen = true ∧ call'.request = call.request := by
  by_cases hother : e.actor? ≠ some (.call c)
  · exact Or.inr ⟨call, (h.call?_of_ne_actor hother).symm.trans hc, isOpen, rfl⟩
  obtain ⟨r, rfl, ht⟩ | ⟨r, phase, phase', hs, hphase, ht⟩ := h.call?_of_actor (Decidable.not_not.1 hother)
  · cases ht.symm.trans hc
    exact Or.inl rfl
  · cases ht.symm.trans hc
    exact Or.inr ⟨_, hs, Call.isOpen_of_ne_done hphase, rfl⟩

theorem Step.solo (h : s.Step e t effects) (solo : s.Solo) (idle : e.isStart = true → s.isIdle = true) :
    t.Solo := by
  intro c d call call' hc hopen hd hopen'
  have hclosed : ∀ {c r}, e = .start c r → ∀ {d call}, s.call? d = some call → call.isOpen = true →
      False := by
    rintro c r rfl d call hd hopen
    cases (isOpen_of_isIdle (idle rfl) hd).symm.trans hopen
  obtain hstart | ⟨x, hx, hxopen, -⟩ := h.isOpen_before hc hopen
  · obtain hstart' | ⟨y, hy, hyopen, -⟩ := h.isOpen_before hd hopen'
    · exact (Event.start.inj (hstart.symm.trans hstart')).1
    · exact (hclosed hstart hy hyopen).elim
  · obtain hstart' | ⟨y, hy, hyopen, -⟩ := h.isOpen_before hd hopen'
    · exact (hclosed hstart' hx hxopen).elim
    · exact solo hx hxopen hy hyopen

/-- When the only open call returns, no call is open. -/
theorem Step.closed_of_return {call : Call} {r : Request} {o : Outcome} (h : s.Step e t effects)
    (solo : s.Solo) (hc : s.call? c = some call) (isOpen : call.isOpen = true)
    (ht : t.call? c = some ⟨r, .done o⟩) {call' : Call} (hd : t.call? d = some call') :
    call'.isOpen = false := by
  refine Bool.not_eq_true _ ▸ fun hopen => ?_
  have hself : d ≠ c := by
    rintro rfl
    cases hd.symm.trans ht
    cases hopen
  have hactor : e.actor? = some (.call c) := by
    refine Decidable.not_not.1 fun hother => ?_
    cases hc.symm.trans ((h.call?_of_ne_actor hother).symm.trans ht)
    cases isOpen
  obtain rfl | ⟨x, hx, hxopen, -⟩ := h.isOpen_before hd hopen
  · cases hactor
    exact hself rfl
  · exact hself (solo hx hxopen hc isOpen)

/-! ## Stillness -/

/-- While the client is still nothing happens to its pollers, until a login or a refresh returns. -/
theorem Step.still (h : s.Step e t effects) (still : s.Still) :
    t.pollers = s.pollers ∧ t.slot.poller = none ∨
    ∃ c r, (s.call? c = some ⟨r, .queued⟩ ∧ r ≠ .polling ∨ ∃ p, s.call? c = some ⟨r, .stopping p⟩) ∧
      r ≠ .logout ∧ t.call? c = some ⟨r, .done .completed⟩ := by
  obtain hempty | hfilled := h.slot_filled still.empty
  · refine Or.inl ⟨?_, hempty⟩
    have hrunning : ∀ {p : Nat} {phase : PollerPhase} {signalled : Bool} {P : Prop},
        s.pollers[p]? = some ⟨phase, signalled⟩ → phase ≠ .finished → P := by
      intro p phase signalled P hp hne
      have hfalse := hasFinished_eq_false_of_phase (pollerPhase?_of_getElem? hp) hne
      cases (still.finished p).symm.trans hfalse
    have hletGo : ∀ {s' : State}, s'.slot = s.slot → s'.letGo.1.pollers = s'.pollers := by
      intro s' hslot
      obtain heq | ⟨-, p, hp, -⟩ := letGo_cases (s := s')
      · rw [heq]
      · cases (hslot ▸ hp : s.slot.poller = some p).symm.trans still.empty
    cases h
    case install | installStopped => cases hempty
    case takeOut full | replace full => cases full.symm.trans still.empty
    case settle poller _ | settleFails poller _ | tick poller _ _ _ | abandon poller _ _ _
        | tickFails poller _ _ | shutdown poller | pollerFindsNone poller _ | pollerChecks poller _
        | pollerHears poller _ _ _ | pollerGoesOn poller _ | pollerEnds poller _ =>
      exact hrunning poller nofun
    case drop => exact hletGo rfl
    all_goals rfl
  · exact Or.inr hfilled

theorem Still.congr (still : s.Still) (hpollers : t.pollers = s.pollers) (hempty : t.slot.poller = none) :
    t.Still where
  finished p := by
    rw [hasFinished, hpollers]
    exact still.finished p
  empty := hempty

/-- A call comes to have adopted by adopting. -/
theorem Step.adopted (h : s.Step e t effects) (adopted : t.Adopted c r) :
    s.Adopted c r ∨ ∃ time, e = .adopt c time := by
  obtain ⟨⟨a, asks⟩, phase, ht, hphase⟩ := adopted
  by_cases hother : e.actor? ≠ some (.call c)
  · exact Or.inl ⟨⟨a, asks⟩, phase, (h.call?_of_ne_actor hother).symm.trans ht, hphase⟩
  obtain ⟨_, -, -, ht', -⟩ | ⟨_, _, _, hs, ht', -, step⟩ := h.callStep (Decidable.not_not.1 hother)
  · cases ht'.symm.trans ht
    obtain hphase | hphase := hphase <;> cases r <;> cases hphase
  · cases ht'.symm.trans ht
    cases step with
    | replace => exact Or.inl ⟨⟨a, asks⟩, .queued, hs, Or.inr rfl⟩
    | lineUpAdopted => exact Or.inl ⟨⟨a, asks⟩, .adopted, hs, Or.inl rfl⟩
    | adopt => exact Or.inr ⟨_, rfl⟩
    | lineUp other => cases asks.symm.trans other
    | takeOut => cases asks
    | _ => obtain hphase | hphase := hphase <;> cases hphase

theorem userAsk?_ne_logout : r.userAsk? ≠ some .logout := by cases r <;> nofun

theorem userAsk?_ne_status : r.userAsk? ≠ some .status := by cases r <;> nofun

/-- Whoever asks the provider does so in an event of his own. -/
theorem Step.actor?_of_asked (h : s.Step e t effects) (asked : .asked task a ∈ effects) :
    e.actor? = some task := by
  refine Decidable.not_not.1 fun hother => ?_
  have hmem := mem_asksIn.2 asked
  rw [h.asksIn_of_ne_actor hother] at hmem
  cases hmem

/-- A call that asks the provider to log out has had its turn, or has waited for a poller to finish. -/
theorem Step.of_asked_logout (h : s.Step e t effects) (asked : .asked (.call c) .logout ∈ effects) :
    (s.call? c = some ⟨.logout, .queued⟩ ∧ s.slot.poller = none ∨
      ∃ p, s.call? c = some ⟨.logout, .stopping p⟩ ∧ s.hasFinished p = true) ∧
    t.call? c = some ⟨.logout, .asking s.newDeadline⟩ := by
  obtain ⟨_, -, -, -, rfl⟩ | ⟨_, _, _, hs, ht, hasks, step⟩ := h.callStep (h.actor?_of_asked asked)
  · cases asked
  · have hmem := hasks ▸ mem_asksIn.2 asked
    cases step with
    | askUser asks =>
      cases List.mem_singleton.1 hmem
      exact absurd asks userAsk?_ne_logout
    | askLogout _ empty => exact ⟨Or.inl ⟨hs, empty⟩, ht⟩
    | askLogoutStopped ended => exact ⟨Or.inr ⟨_, hs, ended⟩, ht⟩
    | checks => cases List.mem_singleton.1 hmem
    | _ => cases hmem

/-- Whoever asks for the status of the session is in a check and has found the session alive. -/
theorem Step.of_asked_status (h : s.Step e t effects) (asked : .asked task .status ∈ effects) :
    s.checkPhase? task = some .opening ∧ s.session.isAlive = true := by
  have hactor := h.actor?_of_asked asked
  have hmem := mem_asksIn.2 asked
  have halive : ∀ {login}, loginOf? s.session = some login → s.session.isAlive = true := by
    intro login hlogin
    refine Bool.not_eq_false _ ▸ fun hdead => ?_
    cases hlogin.symm.trans (loginOf?_eq_none_iff.2 hdead)
  cases task with
  | call c =>
    obtain ⟨_, -, -, -, rfl⟩ | ⟨_, _, _, hs, -, hasks, step⟩ := h.callStep hactor
    · cases asked
    · rw [hasks] at hmem
      cases step with
      | askUser asks =>
        cases List.mem_singleton.1 hmem
        exact absurd asks userAsk?_ne_status
      | checks alive => exact ⟨checkPhase?_call_iff.2 ⟨_, hs⟩, halive alive⟩
      | askLogout | askLogoutStopped => cases List.mem_singleton.1 hmem
      | _ => cases hmem
  | poller p =>
    obtain ⟨_, _, _, hs, -, hasks, step⟩ := h.pollerStep hactor
    rw [hasks] at hmem
    cases step with
    | checks alive =>
      obtain ⟨⟨_, signalled⟩, hp, rfl⟩ := Option.map_eq_some_iff.1 hs
      exact ⟨checkPhase?_poller_iff.2 ⟨_, signalled, hp⟩, halive alive⟩
    | _ => cases hmem

end State

/-! ## Runs without overlaps -/

section
variable {config : Config} {table : Navigation.Table} {trace l l' : Trace} {s t u : State} {e : Event}
  {effects : List Effect} {c d p : Nat} {r : Request}

theorem isSequential_append (h : Run s l t) :
    isSequential s (l ++ l') = (isSequential s l && isSequential t l') := by
  induction h with
  | nil => rfl
  | cons step _ ih => simp only [List.cons_append, isSequential, step, ih, Bool.and_assoc]

theorem isSequential_singleton (step : s.step? e = some (t, effects)) :
    isSequential s [(e, effects)] = (!e.isStart || s.isIdle) := by
  simp [isSequential, step]

theorem Run.keeps_solo (h : Run s l t) (solo : s.Solo) (seq : isSequential s l = true) : t.Solo := by
  refine h.induction (P := fun l t => isSequential s l = true → t.Solo) (fun _ => solo) ?_ seq
  intro l t e u effects hl ih step seq
  rw [isSequential_append hl, isSequential_singleton step, Bool.and_eq_true, Bool.or_eq_true] at seq
  refine (State.Step.of_step? step).solo (ih seq.1) fun hstart => ?_
  exact seq.2.resolve_left (by simp [hstart])

theorem Run.solo (h : Run (.initial config table) trace s)
    (seq : isSequential (.initial config table) trace = true) : s.Solo :=
  h.keeps_solo nofun seq

/-- Whoever is to put a poller into the slot has adopted. -/
theorem Run.adopted (h : Run (.initial config table) trace s) (logout : r ≠ .logout)
    (hc : s.call? c = some ⟨r, .queued⟩ ∧ r ≠ .polling ∨ ∃ p, s.call? c = some ⟨r, .stopping p⟩) :
    s.Adopted c r := by
  obtain ⟨call, polling⟩ | ⟨p, call⟩ := hc
  · have hr := (call ▸ h.account c : Account (some _) _ _ _).of_queued
    exact ⟨(hr.resolve_left logout).resolve_left polling, _, call, Or.inr rfl⟩
  · have hr := (call ▸ h.account c : Account (some _) _ _ _).of_stopping
    exact ⟨hr.resolve_left logout, _, call, Or.inr rfl⟩

/-- A still client stays still until a login or a refresh returns. -/
theorem Run.still_step (h : Run (.initial config table) trace s) (still : s.Still)
    (step : s.step? e = some (t, effects)) :
    t.pollers = s.pollers ∧ t.slot.poller = none ∨
    ∃ c r, s.Adopted c r ∧ t.call? c = some ⟨r, .done .completed⟩ := by
  refine ((State.Step.of_step? step).still still).imp_right ?_
  rintro ⟨c, r, hc, logout, ht⟩
  exact ⟨c, r, h.adopted logout hc, ht⟩

theorem State.Adopted.exists_open (adopted : s.Adopted c r) :
    ∃ phase, s.call? c = some ⟨r, phase⟩ ∧ (⟨r, phase⟩ : Call).isOpen = true := by
  obtain ⟨-, phase, hc, hphase⟩ := adopted
  refine ⟨phase, hc, Call.isOpen_of_ne_done ?_⟩
  rintro o rfl
  obtain hphase | hphase := hphase <;> cases hphase

/-- While a logout is open nobody has adopted. -/
theorem State.Solo.not_adopted {call : Call} {d : Nat} (solo : s.Solo) (hc : s.call? c = some call)
    (isOpen : call.isOpen = true) (logout : call.request = .logout) : ¬s.Adopted d r := by
  intro adopted
  obtain ⟨a, asks⟩ := adopted.1
  obtain ⟨phase, hd, hopen⟩ := adopted.exists_open
  cases solo hc isOpen hd hopen
  cases hc.symm.trans hd
  cases logout
  cases asks

/-- What a logout in a sequential run has seen to, from taking the poller out of the slot to clearing the
session. -/
structure State.Emptied (s : State) : Prop where
  stopping : ∀ {c p}, s.call? c = some ⟨.logout, .stopping p⟩ → s.slot.poller = none
  asking : ∀ {c d}, s.call? c = some ⟨.logout, .asking d⟩ → s.Still
  clearing : ∀ {c}, s.call? c = some ⟨.logout, .clearing⟩ → s.Still

/-- A logout that is about to ask the provider finds no poller running. -/
theorem State.Exclusive.still (inv : s.Exclusive) (solo : s.Solo) {phase : CallPhase}
    (hc : s.call? c = some ⟨.logout, phase⟩) (isOpen : (⟨.logout, phase⟩ : Call).isOpen = true)
    (ended : ∀ p, phase = .stopping p → s.hasFinished p = true) (hempty : s.slot.poller = none) :
    s.Still where
  finished p := by
    refine Bool.not_eq_false _ ▸ fun hrunning => ?_
    cases hsignalled : s.isSignalled p with
    | false => cases (inv.inCharge hrunning hsignalled).symm.trans hempty
    | true =>
      refine absurd (inv.released ⟨hrunning, hsignalled, fun d r hd => ?_⟩).1 fun hnone => ?_
      · cases solo hc isOpen hd rfl
        cases hc.symm.trans hd
        cases (ended p rfl).symm.trans hrunning
      · cases (inv.closed hnone _ _ hc).symm.trans isOpen
  empty := hempty

/-- While a logout is open nobody else fills the slot or starts a poller. -/
theorem Run.still_while_logout {call : Call} (h : Run (.initial config table) trace s) (solo : s.Solo)
    (hc : s.call? c = some call) (isOpen : call.isOpen = true) (logout : call.request = .logout)
    (still : s.Still) (step : s.step? e = some (t, effects)) : t.Still := by
  obtain ⟨hpollers, hempty⟩ | ⟨d, r, adopted, -⟩ := h.still_step still step
  · exact still.congr hpollers hempty
  · exact absurd adopted (solo.not_adopted hc isOpen logout)

/-- A logout asks the provider when every poller has finished. -/
theorem Run.still_of_asked (h : Run (.initial config table) trace s) (solo : s.Solo) (inv : s.Emptied)
    (step : s.step? e = some (t, effects)) (asked : .asked (.call c) .logout ∈ effects) :
    s.Still ∧ t.Still := by
  obtain ⟨⟨call, hempty⟩ | ⟨p, call, ended⟩, -⟩ := (State.Step.of_step? step).of_asked_logout asked
  · have still : s.Still := h.exclusive.still solo call rfl nofun hempty
    exact ⟨still, h.still_while_logout solo call rfl rfl still step⟩
  · have still : s.Still := by
      refine h.exclusive.still solo call rfl (fun q hq => ?_) (inv.stopping call)
      cases hq
      exact ended
    exact ⟨still, h.still_while_logout solo call rfl rfl still step⟩

theorem Run.emptied (h : Run (.initial config table) trace s)
    (seq : isSequential (.initial config table) trace = true) : s.Emptied := by
  refine h.induction (P := fun trace s => isSequential _ trace = true → s.Emptied)
    (fun _ => ⟨nofun, nofun, nofun⟩) ?_ seq
  intro l t e u effects hl ih step seq
  rw [isSequential_append hl, Bool.and_eq_true] at seq
  have solo : t.Solo := hl.solo seq.1
  have inv := ih seq.1
  have hstep := State.Step.of_step? step
  -- A logout has come to its phase before this step, or in a step of its own.
  have hcases : ∀ {c phase}, u.call? c = some ⟨.logout, phase⟩ → phase ≠ .ready →
      t.call? c = some ⟨.logout, phase⟩ ∨
      ∃ call asks, t.call? c = some call ∧ asksIn (.call c) effects = asks ∧
        t.CallStep u c e call ⟨.logout, phase⟩ asks := by
    intro c phase hc hready
    by_cases hother : e.actor? ≠ some (.call c)
    · exact Or.inl ((hstep.call?_of_ne_actor hother).symm.trans hc)
    · obtain ⟨_, -, -, hc', -⟩ | ⟨call, _, asks, ht, hc', hasks, move⟩ :=
        hstep.callStep (Decidable.not_not.1 hother)
      · cases hc'.symm.trans hc
        exact absurd rfl hready
      · cases hc'.symm.trans hc
        exact Or.inr ⟨call, asks, ht, hasks, move⟩
  refine ⟨fun {c p} hc => ?_, fun {c d} hc => ?_, fun {c} hc => ?_⟩
  · obtain call | ⟨_, _, -, -, move⟩ := hcases hc nofun
    · obtain hempty | ⟨d, r, hd, logout, -⟩ := hstep.slot_filled (inv.stopping call)
      · exact hempty
      · exact absurd (hl.adopted logout hd) (solo.not_adopted call rfl rfl)
    · cases move with
      | takeOut _ _ emptied => exact emptied
      | replace _ logout => exact absurd rfl logout
  · obtain call | ⟨_, _, -, hasks, move⟩ := hcases hc nofun
    · exact hl.still_while_logout solo call rfl rfl (inv.asking call) step
    · refine (hl.still_of_asked (c := c) solo inv step (mem_asksIn.1 ?_)).2
      rw [hasks]
      cases move with
      | askUser asks => cases asks
      | askLogout | askLogoutStopped => exact List.mem_singleton_self _
  · obtain call | ⟨_, _, ht, -, move⟩ := hcases hc nofun
    · exact hl.still_while_logout solo call rfl rfl (inv.clearing call) step
    · cases move with
      | hearLogout => exact hl.still_while_logout solo ht rfl rfl (inv.asking ht) step

end

end AdminConsole.Client
