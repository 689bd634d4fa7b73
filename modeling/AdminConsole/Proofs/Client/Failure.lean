import AdminConsole.Proofs.Client.Without

/-!
# A call that fails leaves nothing behind

A login or a refresh that fails can be left out of a run: all other events happen just the same, with the
same effects, and at every moment the client is the same but for that call. `failed_call_erasable` says so
of a client in any state to begin with. It also says that a login or a refresh that has not been answered
until its deadline can time out, and that it can be left out then.
-/

namespace AdminConsole.Client

/-- The events of a trace that are not a call's. -/
def eventsWithout (c : Nat) (trace : Trace) : Trace := trace.filter fun x => x.1.actor? != some (.call c)

/-- Two clients that differ at most in a call, which the second has not seen. -/
structure SameBut (c : Nat) (s t : State) : Prop where
  session : t.session = s.session
  slot : t.slot = s.slot
  pollers : t.pollers = s.pollers
  failed : t.failed = s.failed
  notifications : t.notifications = s.notifications
  handles : t.handles = s.handles
  now : t.now = s.now
  others : ∀ d, d ≠ c → t.call? d = s.call? d
  absent : t.call? c = none

/-- A call that has failed might as well not have been made. -/
structure Erased (c : Nat) (error : AuthError) (s : State) (trace : Trace) (t : State) : Prop where
  /-- All that it has heard from the provider is that it fails. -/
  heard : heardBy (.call c) trace = [.failed error]
  /-- At every moment of the run without the call, the client is the same but for the call. -/
  run : ∀ {l l' x}, trace = l ++ l' → Run s l x → ∃ y, Run s (eventsWithout c l) y ∧ SameBut c x y
  /-- The session goes through the same transitions, brought about by the same tasks. -/
  contributions : contributions s (eventsWithout c trace) = contributions s trace
  /-- The others ask the same and hear the same. -/
  asks : ∀ task, task ≠ .call c → asksOf task (eventsWithout c trace) = asksOf task trace
  answers : ∀ task, task ≠ .call c → heardBy task (eventsWithout c trace) = heardBy task trace
  /-- Nothing that comes afterwards is the call's, no late answer in particular. -/
  ended : ∀ {mid u}, Run t mid u → ∀ x ∈ mid, x.1.actor? ≠ some (.call c)

/-- How far a login or a refresh has come that has not been given any data. -/
inductive EmptyHanded : Option Call → Prop where
  | absent : EmptyHanded none
  | ready {r : Request} {a : Ask} (asks : r.userAsk? = some a) : EmptyHanded (some ⟨r, .ready⟩)
  | asking {r : Request} {a : Ask} {d : Nat} (asks : r.userAsk? = some a) :
    EmptyHanded (some ⟨r, .asking d⟩)
  | failed {r : Request} {a : Ask} {error : AuthError} (asks : r.userAsk? = some a) :
    EmptyHanded (some ⟨r, .done (.failed error)⟩)

namespace State

variable {s t u : State} {e : Event} {effects : List Effect} {c d p : Nat} {r : Request} {a : Ask}
  {task : Task}

/-- All entries of a call number are of the same call. -/
def Alone (c : Nat) (s : State) : Prop := ∀ call, (c, call) ∈ s.calls → s.call? c = some call

/-! ## The steps of a call that is given nothing -/

/-- The steps that leave a call empty-handed. -/
theorem Step.of_emptyHanded (h : s.Step e t effects) (hactor : e.actor? = some (.call c))
    (empty : EmptyHanded (t.call? c)) :
    (∃ r, e = .start c r ∧ s.call? c = none ∧ t = { s with calls := s.calls ++ [(c, .ofRequest r)] }) ∨
    (∃ r a, s.call? c = some ⟨r, .ready⟩ ∧ r.userAsk? = some a ∧ e = .proceed (.call c) ∧
      t = s.setCall c (.asking s.newDeadline)) ∨
    ∃ r a d error, s.call? c = some ⟨r, .asking d⟩ ∧ r.userAsk? = some a ∧
      e.heard? = some (.call c, .failed error) ∧ t = s.setCall c (.done (.failed error)) := by
  have hnot : ∀ {r phase} {P : Prop}, t.call? c = some ⟨r, phase⟩ →
      (EmptyHanded (some ⟨r, phase⟩) → False) → P :=
    fun hc hnot => (hnot (hc ▸ empty)).elim
  cases h
  case start new =>
    cases hactor
    exact Or.inl ⟨_, rfl, new, rfl⟩
  case askUser call asks =>
    cases hactor
    exact Or.inr (Or.inl ⟨_, _, call, asks, rfl, rfl⟩)
  case hearNoUser call asks heard _ =>
    cases (Event.actor?_of_heard? heard).symm.trans hactor
    exact Or.inr (Or.inr ⟨_, _, _, _, call, asks, heard, rfl⟩)
  case hearUser call _ heard _ | hearLogout call heard _ | hearNoLogout call heard _
      | callHears call _ heard _ =>
    cases (Event.actor?_of_heard? heard).symm.trans hactor
    exact hnot (call?_setCall_self call) nofun
  case pollerHears heard _ => cases (Event.actor?_of_heard? heard).symm.trans hactor
  case askLogout call _ _ | askLogoutStopped call _ =>
    cases hactor
    refine hnot (call?_setCall_self call) fun empty => ?_
    cases empty with
    | asking asks => cases asks
  case lineUp call _ | lineUpAdopted call | tellPolling call _ | takeOut call _ _ | install call _ _ _ _
      | replace call _ _ _ _ | installStopped call _ _ | clear call | callFindsNone call _
      | callChecks call _ | callJudges call | adopt call =>
    cases hactor
    exact hnot (call?_setCall_self call) nofun
  all_goals cases hactor

theorem Step.emptyHanded_before (h : s.Step e t effects) (empty : EmptyHanded (t.call? c)) :
    EmptyHanded (s.call? c) := by
  by_cases hother : e.actor? ≠ some (.call c)
  · rw [← h.call?_of_ne_actor hother]
    exact empty
  · obtain ⟨r, -, new, -⟩ | ⟨r, a, call, asks, -⟩ | ⟨r, a, d, error, call, asks, -⟩ :=
      h.of_emptyHanded (Decidable.not_not.1 hother) empty
    · rw [new]
      exact .absent
    · rw [call]
      exact .ready asks
    · rw [call]
      exact .asking asks

/-- A call that is given nothing changes nothing but itself. -/
theorem Step.withoutCall_eq (h : s.Step e t effects) (hactor : e.actor? = some (.call c))
    (empty : EmptyHanded (t.call? c)) : t.withoutCall c = s.withoutCall c := by
  obtain ⟨r, -, -, rfl⟩ | ⟨r, a, -, -, -, rfl⟩ | ⟨r, a, d, error, -, -, -, rfl⟩ :=
    h.of_emptyHanded hactor empty
  · have hcalls : (s.calls ++ [(c, Call.ofRequest r)]).filter (fun x => x.1 != c) =
        s.calls.filter fun x => x.1 != c := by simp
    show ({ s with calls := (s.calls ++ [(c, Call.ofRequest r)]).filter _ } : State) = _
    rw [hcalls]
    rfl
  · exact withoutCall_setCall_self
  · exact withoutCall_setCall_self

theorem Step.contribution?_of_emptyHanded (h : s.Step e t effects) (hactor : e.actor? = some (.call c))
    (empty : EmptyHanded (t.call? c)) : s.contribution? e = none := by
  obtain ⟨r, rfl, -⟩ | ⟨r, a, call, -, rfl, -⟩ | ⟨r, a, d, error, -, -, heard, -⟩ :=
    h.of_emptyHanded hactor empty
  · rfl
  · exact contribution?_proceed_call call
  · exact contribution?_of_heard heard

theorem contribution?_withoutCall (hother : e.actor? ≠ some (.call c)) :
    (s.withoutCall c).contribution? e = s.contribution? e := by
  have hphase : ∀ {d}, e.actor? = some (.call d) → (s.withoutCall c).callPhase? d = s.callPhase? d := by
    intro d hactor
    have hd : d ≠ c := by
      rintro rfl
      exact hother hactor
    rw [callPhase?, call?_withoutCall_of_ne hd, callPhase?]
  cases e with
  | adopt d time => simp only [contribution?, hphase rfl]
  | proceed task =>
    cases task with
    | call d => simp only [contribution?, hphase rfl, session_withoutCall]
    | poller p => rfl
  | _ => rfl

/-! ## One entry for each call -/

theorem alone_of_none (h : s.call? c = none) : s.Alone c := by
  intro call hmem
  have hne := List.lookup_eq_none_iff.1 h _ hmem
  simp at hne

@[simp] theorem calls_letGo : s.letGo.1.calls = s.calls := letGo_eq_of fun _ => rfl

/-- A step makes a call, or moves one on, or leaves them all as they are. -/
theorem Step.calls (h : s.Step e t effects) :
    t.calls = s.calls ∨ (∃ d phase, t.calls = (s.setCall d phase).calls) ∨
    ∃ d r, s.call? d = none ∧ t.calls = s.calls ++ [(d, .ofRequest r)] := by
  cases h
  case start new => exact Or.inr (Or.inr ⟨_, _, new, rfl⟩)
  case settle | tick | pollerChecks | pollerHears | elapse | clone | notify => exact Or.inl rfl
  case drop | pollerGoesOn => exact Or.inl calls_letGo
  case settleFails | tickFails | abandon | shutdown | pollerFindsNone | pollerEnds =>
    exact Or.inl calls_letGo
  all_goals exact Or.inr (Or.inl ⟨_, _, rfl⟩)

theorem Step.alone (h : s.Step e t effects) (alone : s.Alone c) : t.Alone c := by
  intro call hmem
  obtain hcalls | ⟨d, phase, hcalls⟩ | ⟨d, r, new, hcalls⟩ := h.calls
  · rw [hcalls] at hmem
    rw [call?, hcalls]
    exact alone call hmem
  · rw [hcalls] at hmem
    obtain ⟨⟨k, call'⟩, hmem', heq⟩ := List.mem_map.1 hmem
    cases heq
    have hcall : t.call? c = (s.setCall d phase).call? c := by rw [call?, hcalls]; rfl
    rw [hcall, call?_setCall, alone call' hmem']
    split <;> rfl
  · have hcall : t.call? c = ({ s with calls := s.calls ++ [(d, .ofRequest r)] } : State).call? c := by
      rw [call?, hcalls]
      rfl
    rw [hcall, call?_append new]
    rw [hcalls] at hmem
    rcases List.mem_append.1 hmem with hmem | hmem
    · have hc := alone call hmem
      have hne : c ≠ d := by
        rintro rfl
        cases new.symm.trans hc
      rw [if_neg hne, hc]
    · cases List.mem_singleton.1 hmem
      rw [if_pos rfl]

/-- A call that is empty-handed waits for no poller. -/
theorem not_mem_waitersFor (alone : s.Alone c) (empty : EmptyHanded (s.call? c)) :
    c ∉ s.waitersFor p := by
  intro hmem
  obtain ⟨⟨k, ⟨r, phase⟩⟩, hx, rfl⟩ := List.mem_map.1 hmem
  obtain ⟨hcall, hstops⟩ := List.mem_filter.1 hx
  have hphase : phase = .stopping p := eq_of_beq hstops
  subst hphase
  rw [alone _ hcall] at empty
  cases empty

theorem sameBut_withoutCall : SameBut c s (s.withoutCall c) where
  session := rfl
  slot := rfl
  pollers := rfl
  failed := rfl
  notifications := rfl
  handles := rfl
  now := rfl
  others _ h := call?_withoutCall_of_ne h
  absent := call?_withoutCall_self

end State

/-! ## Runs -/

section
variable {s t u : State} {e : Event} {effects : List Effect} {c d : Nat} {r : Request} {a : Ask}
  {error : AuthError} {trace l l' : Trace} {task : Task}

theorem eventsWithout_cons_of_ne (h : e.actor? ≠ some (.call c)) :
    eventsWithout c ((e, effects) :: l) = (e, effects) :: eventsWithout c l :=
  List.filter_cons_of_pos (by simpa using h)

theorem eventsWithout_cons_of_eq (h : e.actor? = some (.call c)) :
    eventsWithout c ((e, effects) :: l) = eventsWithout c l :=
  List.filter_cons_of_neg (by simp [h])

theorem Run.emptyHanded_before (h : Run s trace t) (empty : EmptyHanded (t.call? c)) :
    EmptyHanded (s.call? c) := by
  induction h with
  | nil => exact empty
  | cons step _ ih => exact (State.Step.of_step? step).emptyHanded_before (ih empty)

/-- A run goes on just the same without a call that is empty-handed at its end. -/
theorem Run.withoutCall (h : Run s trace t) (alone : s.Alone c) (empty : EmptyHanded (t.call? c)) :
    Run (s.withoutCall c) (eventsWithout c trace) (t.withoutCall c) ∧
      contributions (s.withoutCall c) (eventsWithout c trace) = contributions s trace := by
  induction h with
  | nil => exact ⟨.nil, rfl⟩
  | @cons s m t e effects rest step hrest ih =>
    have hstep := State.Step.of_step? step
    have hmid := hrest.emptyHanded_before empty
    obtain ⟨hrun, hsame⟩ := ih (hstep.alone alone) empty
    by_cases hother : e.actor? ≠ some (.call c)
    · have hbefore := hstep.emptyHanded_before hmid
      have step' := State.step?_withoutCall hother
        (fun p => State.not_mem_waitersFor alone hbefore) step
      rw [eventsWithout_cons_of_ne hother]
      refine ⟨.cons step' hrun, ?_⟩
      simp only [contributions, step, step', State.contribution?_withoutCall hother, hsame]
    · have hactor := Decidable.not_not.1 hother
      rw [eventsWithout_cons_of_eq hactor, ← hstep.withoutCall_eq hactor hmid]
      refine ⟨hrun, ?_⟩
      simp only [contributions, step, hstep.contribution?_of_emptyHanded hactor hmid, hsame]
      rfl

/-- What the others ask is not a call's. -/
theorem Run.asksOf_eventsWithout (h : Run s trace t) (hne : task ≠ .call c) :
    asksOf task (eventsWithout c trace) = asksOf task trace := by
  induction h with
  | nil => rfl
  | @cons s m t e effects rest step _ ih =>
    have hcons : ∀ {l : Trace}, asksOf task ((e, effects) :: l) = asksIn task effects ++ asksOf task l :=
      List.flatMap_cons
    by_cases hother : e.actor? ≠ some (.call c)
    · rw [eventsWithout_cons_of_ne hother, hcons, hcons, ih]
    · have hactor := Decidable.not_not.1 hother
      have hsilent : asksIn task effects = [] :=
        (State.Step.of_step? step).asksIn_of_ne_actor fun heq =>
          hne (Option.some.inj (heq.symm.trans hactor))
      rw [eventsWithout_cons_of_eq hactor, hcons, hsilent, ih]
      rfl

theorem heardBy_eventsWithout (hne : task ≠ .call c) :
    heardBy task (eventsWithout c trace) = heardBy task trace := by
  unfold heardBy eventsWithout
  rw [List.filterMap_filter]
  refine congrArg (fun f => List.filterMap f trace) (funext fun x => ?_)
  by_cases hactor : x.1.actor? = some (.call c)
  · have hdeaf : heardIn task x.1 = none :=
      heardIn_of_ne_actor fun heq => hne (Option.some.inj (heq.symm.trans hactor))
    rw [hdeaf]
    exact ite_self none
  · simp [hactor]

theorem Run.erased (h : Run s trace t) (new : s.call? c = none)
    (failed : t.call? c = some ⟨r, .done (.failed error)⟩) (asks : r.userAsk? = some a) :
    Erased c error s trace t := by
  have hnone : s.withoutCall c = s := State.withoutCall_of_none new
  have alone := State.alone_of_none new
  have empty : EmptyHanded (t.call? c) := by
    rw [failed]
    exact .failed asks
  refine ⟨?_, ?_, ?_, fun _ => h.asksOf_eventsWithout, fun _ => heardBy_eventsWithout,
    fun hmid => (hmid.call?_of_done failed).2⟩
  · have acc := failed ▸ h.account_of_new new
    generalize asksOf (.call c) trace = asked, heardBy (.call c) trace = heard,
      contributionsOf (.call c) s trace = given at acc
    cases acc
    rfl
  · rintro l l' x rfl hl
    obtain ⟨x', hl', hrest⟩ := exists_of_append h
    cases hl.unique hl'
    have hwithout := (hl.withoutCall alone (hrest.emptyHanded_before empty)).1
    rw [hnone] at hwithout
    exact ⟨_, hwithout, State.sameBut_withoutCall⟩
  · have hsame := (h.withoutCall alone empty).2
    rw [hnone] at hsame
    exact hsame

/-- A login or a refresh that has failed can be left out of the run, whatever the client was like when it
was made. While it waits for the provider its deadline is the one it was given when it asked, and from that
moment on it can time out. Then it can be left out as well: no answer that comes later is applied. -/
theorem failed_call_erasable {phase : CallPhase} (h : Run s trace t) (new : s.call? c = none)
    (call : t.call? c = some ⟨r, phase⟩) (asks : r.userAsk? = some a) :
    (∀ error, phase = .done (.failed error) → Erased c error s trace t) ∧
    ∀ d, phase = .asking d →
      (∃ l x e effects l' b, trace = l ++ (e, effects) :: l' ∧ Run s l x ∧
        .asked (.call c) b ∈ effects ∧ d = x.newDeadline) ∧
      (d ≤ t.now → ∃ u effects, t.step? (.timeout (.call c)) = some (u, effects) ∧
        u.call? c = some ⟨r, .done (.failed .timeout)⟩ ∧
        Erased c .timeout s (trace ++ [(.timeout (.call c), effects)]) u) := by
  refine ⟨fun error hphase => ?_, fun d hphase => ⟨?_, fun due => ?_⟩⟩
  · subst hphase
    exact h.erased new call asks
  · subst hphase
    have hnone : s.deadline? (.call c) = none := by rw [State.deadline?, new]; rfl
    exact h.asked_at hnone (State.deadline?_of_call? call)
  · subst hphase
    have step := step?_timeout_user call asks due
    exact ⟨_, _, step, State.call?_setCall_self call,
      (h.append (.singleton step)).erased new (State.call?_setCall_self call) asks⟩

/-- A refresh that is not answered in time, while the poller of the session runs a check. -/
def unansweredRefresh : List Event :=
  [.proceed (.poller 0), .start 1 .refresh, .proceed (.call 1), .elapse 30000000001, .tick 0,
    .proceed (.poller 0)]

theorem failed_call_erasable_unansweredRefresh :
    ∃ pre s trace m u effects trace' t, Run (.initial .standard .mainTabs) pre s ∧
      s.session.isAlive = true ∧ s.call? 1 = none ∧ Run s trace m ∧
      m.step? (.timeout (.call 1)) = some (u, effects) ∧
      Erased 1 .timeout s (trace ++ [(.timeout (.call 1), effects)]) u ∧ Run s trace' t ∧
      t.call? 1 = some ⟨.refresh, .done (.failed .timeout)⟩ ∧ Erased 1 .timeout s trace' t := by
  have hrun : ∃ x y z d, (State.initial .standard .mainTabs).follow? undisturbedLogin = some x ∧
      x.2.session.isAlive = true ∧ x.2.call? 1 = none ∧
      x.2.follow? unansweredRefresh = some y ∧ y.2.call? 1 = some ⟨.refresh, .asking d⟩ ∧ d ≤ y.2.now ∧
      x.2.follow? (unansweredRefresh ++ [.timeout (.call 1), .answer (.poller 0) (.status .alive),
        .proceed (.poller 0)]) = some z ∧ z.2.call? 1 = some ⟨.refresh, .done (.failed .timeout)⟩ :=
    ⟨_, _, _, _, rfl, rfl, rfl, rfl, rfl, by decide, rfl, rfl⟩
  obtain ⟨⟨pre, s⟩, ⟨trace, m⟩, ⟨trace', t⟩, d, hpre, halive, new, hwaits, asking, due, hfails, failed⟩ :=
    hrun
  have hm := Run.of_follow? hwaits
  have ht := Run.of_follow? hfails
  obtain ⟨u, effects, step, -, hexpired⟩ := ((failed_call_erasable hm new asking rfl).2 d rfl).2 due
  exact ⟨pre, s, trace, m, u, effects, trace', t, .of_follow? hpre, halive, new, hm, step, hexpired, ht,
    failed, (failed_call_erasable ht new failed rfl).1 _ rfl⟩

end

end AdminConsole.Client
