import AdminConsole.Proofs.Client.TaskStep
import AdminConsole.Proofs.Client.Slot

/-!
# At most one poller

A poller that runs and was not told to stop is the one in the slot, so that there is one such poller
at most. A poller that was told to stop may run for a while longer; as a rule the call that has told it
so waits for it, and only when the last handle is dropped does nobody. While no login, refresh or logout
is under way, at most one poller runs at all: `at_most_one_poller`.
-/

namespace AdminConsole.Client

namespace State

/-- A poller runs although it was told to stop, and no call waits for it to finish. -/
structure Loose (s : State) (p : Nat) : Prop where
  running : s.hasFinished p = false
  signalled : s.isSignalled p = true
  unawaited : ∀ c r, s.call? c ≠ some ⟨r, .stopping p⟩

/-- Nobody but the poller in the slot runs on its own account. -/
structure Exclusive (s : State) : Prop where
  /-- A poller that runs and was not told to stop is in the slot. -/
  inCharge : ∀ {p}, s.hasFinished p = false → s.isSignalled p = false → s.slot.poller = some p
  /-- A poller comes loose with the last handle only. -/
  released : ∀ {p}, s.Loose p → s.handles = 0 ∧ s.slot.poller = none
  single : ∀ {p q}, s.Loose p → s.Loose q → p = q
  /-- Nobody calls without a handle. -/
  closed : s.handles = 0 → ∀ c call, s.call? c = some call → call.isOpen = false

variable {s t : State} {e : Event} {effects : List Effect} {c p q : Nat}

/-! ## Pollers that run -/

theorem hasFinished_eq_false_of_phase {phase : PollerPhase} (h : s.pollerPhase? p = some phase)
    (hne : phase ≠ .finished) : s.hasFinished p = false :=
  hasFinished_eq_false_iff.2 ⟨phase, h, hne⟩

/-- A poller that runs has run before, or has just come into the slot. -/
theorem Step.running_before (h : s.Step e t effects) (ht : t.hasFinished p = false) :
    s.hasFinished p = false ∨ t.slot.poller = some p := by
  obtain ⟨phase, hphase, hne⟩ := hasFinished_eq_false_iff.1 ht
  cases hs : s.pollerPhase? p with
  | none =>
    obtain hnone | ⟨-, hslot⟩ := h.pollerPhase?_of_none hs
    · cases hnone.symm.trans hphase
    · exact Or.inr hslot
  | some phase' =>
    refine Or.inl (hasFinished_eq_false_of_phase hs ?_)
    rintro rfl
    have hsame := h.pollerPhase?_of_ne_actor (h.actor?_ne_of_finished hs) hs
    exact hne (Option.some.inj (hphase.symm.trans hsame))

/-! ## Pollers that are told to stop -/

/-- A call goes on waiting for a poller as long as the poller runs. -/
theorem Step.stopping {r : Request} (h : s.Step e t effects) (hc : s.call? c = some ⟨r, .stopping p⟩)
    (hp : s.hasFinished p = false) : t.call? c = some ⟨r, .stopping p⟩ := by
  by_cases hother : e.actor? ≠ some (.call c)
  · rw [h.call?_of_ne_actor hother, hc]
  obtain ⟨_, -, new, -⟩ | ⟨_, _, _, hs, -, -, step⟩ := h.callStep (Decidable.not_not.1 hother)
  · cases new.symm.trans hc
  · cases hs.symm.trans hc
    cases step with
    | askLogoutStopped ended | installStopped _ ended => cases ended.symm.trans hp

theorem slot_poller_letGo (hp : s.slot.poller = some p) (present : p < s.pollers.length) :
    s.letGo.1.slot.poller = some p ∨ s.letGo.1.isSignalled p = true := by
  obtain heq | ⟨-, q, hq, heq⟩ := letGo_cases (s := s) <;> rw [heq]
  · exact Or.inl hp
  · cases hq.symm.trans hp
    exact Or.inr (isSignalled_signal_self (s := { s with slot := _ }) present)

/-- The poller in the slot stays there unless it is told to stop. -/
theorem Step.slot_poller_or_signalled (h : s.Step e t effects) (inv : s.Orderly)
    (hp : s.slot.poller = some p) : t.slot.poller = some p ∨ t.isSignalled p = true := by
  have present := inv.present hp
  have hset : ∀ {x : State} {q phase}, x.slot = s.slot → x.pollers = s.pollers →
      (x.setPoller q phase).letGo.1.slot.poller = some p ∨
        (x.setPoller q phase).letGo.1.isSignalled p = true := by
    intro x q phase hslot hpollers
    refine slot_poller_letGo (s := x.setPoller q phase) (hslot ▸ hp) ?_
    show p < (x.pollers.modify q _).length
    rw [List.length_modify, hpollers]
    exact present
  cases h
  case install empty => cases empty.symm.trans hp
  case installStopped call logout _ =>
    have hkept := (inv.holder _).2 ⟨_, _, call, logout⟩
    cases (inv.empty (by rw [hkept]; nofun)).symm.trans hp
  case takeOut full | replace full =>
    cases full.symm.trans hp
    exact Or.inr (isSignalled_signal_self (s := { s with slot := _ }) present)
  case drop => exact slot_poller_letGo (s := { s with handles := _ }) hp present
  case pollerGoesOn | settleFails | tickFails | abandon | shutdown | pollerFindsNone | pollerEnds =>
    exact hset rfl rfl
  all_goals exact Or.inl hp

theorem isSignalled_letGo_cases (hs : s.isSignalled p = false) (ht : s.letGo.1.isSignalled p = true) :
    s.references = 0 ∧ s.slot.poller = some p ∧ s.letGo.1.slot.poller = none := by
  obtain heq | ⟨hfree, q, hq, heq⟩ := letGo_cases (s := s) <;> rw [heq] at ht ⊢
  · cases hs.symm.trans ht
  · by_cases hqp : q = p
    · subst hqp
      exact ⟨hfree, hq, rfl⟩
    · rw [isSignalled_signal_of_ne hqp] at ht
      cases hs.symm.trans ht

/-- A poller is told to stop by a call, which then waits for it, or when nobody holds the session any
more. -/
theorem Step.signalled_now (h : s.Step e t effects) (hs : s.isSignalled p = false)
    (ht : t.isSignalled p = true) :
    (∃ c r, t.call? c = some ⟨r, .stopping p⟩) ∨
    t.handles = 0 ∧ s.slot.poller = some p ∧ t.slot.poller = none := by
  have hletGo : ∀ {x : State}, x.isSignalled p = false → x.slot = s.slot →
      x.letGo.1.isSignalled p = true →
      x.letGo.1.handles = 0 ∧ s.slot.poller = some p ∧ x.letGo.1.slot.poller = none := by
    intro x hx hslot ht
    obtain ⟨hfree, hp, hempty⟩ := isSignalled_letGo_cases hx ht
    rw [hslot] at hp
    rw [handles_letGo]
    exact ⟨Nat.eq_zero_of_add_eq_zero_right hfree, hp, hempty⟩
  have hstop : ∀ {x : State} {c q r}, x.call? c = some ⟨r, .queued⟩ → x.isSignalled p = false →
      (x.stopPoller c q).isSignalled p = true →
      ∃ d r, (x.stopPoller c q).call? d = some ⟨r, .stopping p⟩ := by
    intro x c q r hc hx ht
    by_cases hqp : q = p
    · subst hqp
      exact ⟨c, r, call?_setCall_self hc⟩
    · have hsame : (x.stopPoller c q).isSignalled p = x.isSignalled p :=
        isSignalled_signal_of_ne (s := { x with slot := _ }) hqp
      cases hx.symm.trans (hsame.symm.trans ht)
  have hset : ∀ {x : State} {q phase}, x.isSignalled p = s.isSignalled p →
      (x.setPoller q phase).isSignalled p = false :=
    fun hx => isSignalled_setPoller.trans (hx.trans hs)
  cases h
  case takeOut call _ _ => exact Or.inl (hstop (x := s.leaveLine) call hs ht)
  case replace call _ _ _ _ => exact Or.inl (hstop (x := { s.leaveLine with slot := _ }) call hs ht)
  case install | installStopped =>
    rw [isSignalled_install] at ht
    cases hs.symm.trans ht
  case settle | tick | pollerChecks | pollerHears => cases (hset rfl).symm.trans ht
  case drop => exact Or.inr (hletGo (x := { s with handles := _ }) hs rfl ht)
  case pollerGoesOn | settleFails | tickFails | abandon | shutdown | pollerFindsNone | pollerEnds =>
    exact Or.inr (hletGo (hset rfl) rfl ht)
  all_goals cases hs.symm.trans ht

/-! ## The last handle -/

theorem Step.handles_eq_zero (h : s.Step e t effects) (hzero : s.handles = 0) : t.handles = 0 := by
  cases h
  case clone held => exact absurd hzero (Nat.ne_of_gt held)
  case drop =>
    rw [handles_letGo]
    exact Nat.sub_eq_zero_of_le (hzero ▸ Nat.zero_le 1)
  case pollerGoesOn | settleFails | tickFails | abandon | shutdown | pollerFindsNone | pollerEnds =>
    exact handles_letGo.trans hzero
  all_goals exact hzero

/-- The last handle is dropped when every call is done, and without one no call is made. -/
theorem Step.closed (h : s.Step e t effects)
    (closed : s.handles = 0 → ∀ c call, s.call? c = some call → call.isOpen = false)
    (hnone : t.handles = 0) {call : Call} (hc : t.call? c = some call) : call.isOpen = false := by
  have hletGo : ∀ {x : State}, x.letGo.1.handles = 0 → x.handles = s.handles → s.handles = 0 :=
    fun hzero hx => hx.symm.trans (handles_letGo.symm.trans hzero)
  have hbefore : s.handles = 0 ∨ s.isIdle = true := by
    cases h
    case clone => cases hnone
    case drop may =>
      rw [handles_letGo] at hnone
      have hone : ¬1 < s.handles := fun hlt => Nat.sub_ne_zero_of_lt hlt hnone
      unfold mayDrop at may
      rw [Bool.or_eq_true, Bool.and_eq_true, decide_eq_true_iff] at may
      exact Or.inr (may.resolve_left hone).2
    case pollerGoesOn | settleFails | tickFails | abandon | shutdown | pollerFindsNone | pollerEnds =>
      exact Or.inl (hletGo (x := State.setPoller _ _ _) hnone rfl)
    all_goals exact Or.inl hnone
  have hclosed : ∀ {call}, s.call? c = some call → call.isOpen = false :=
    fun hs => hbefore.elim (fun hzero => closed hzero c _ hs) fun hidle => isOpen_of_isIdle hidle hs
  by_cases hother : e.actor? ≠ some (.call c)
  · exact hclosed ((h.call?_of_ne_actor hother).symm.trans hc)
  · obtain ⟨r, rfl, -⟩ | ⟨r, phase, phase', hs, hopen, -⟩ := h.call?_of_actor (Decidable.not_not.1 hother)
    · cases h
      case start held _ => exact absurd hnone (Nat.ne_of_gt held)
      all_goals contradiction
    · cases (Call.isOpen_of_ne_done hopen).symm.trans (hclosed hs)

/-! ## The invariant -/

/-- A poller that is loose after a step was loose before, or the step has dropped the last hold on the
session and taken the poller out of the slot. -/
theorem Step.loose_before (h : s.Step e t effects) (unsignalled : s.SlotUnsignalled) (hp : t.Loose p) :
    s.Loose p ∨ t.handles = 0 ∧ s.slot.poller = some p ∧ t.slot.poller = none := by
  have hrunning : s.hasFinished p = false := by
    refine (h.running_before hp.running).resolve_right fun hslot => ?_
    cases (h.slotUnsignalled unsignalled p hslot).symm.trans hp.signalled
  cases hsignalled : s.isSignalled p with
  | true =>
    exact Or.inl ⟨hrunning, hsignalled, fun c r hc => hp.unawaited c r (h.stopping hc hrunning)⟩
  | false =>
    obtain ⟨c, r, hc⟩ | hreleased := h.signalled_now hsignalled hp.signalled
    · exact absurd hc (hp.unawaited c r)
    · exact Or.inr hreleased

/-- A poller comes into an empty slot when a login or a refresh returns. -/
theorem Step.slot_filled (h : s.Step e t effects) (hempty : s.slot.poller = none) :
    t.slot.poller = none ∨
    ∃ c r, (s.call? c = some ⟨r, .queued⟩ ∧ r ≠ .polling ∨ ∃ p, s.call? c = some ⟨r, .stopping p⟩) ∧
      r ≠ .logout ∧ t.call? c = some ⟨r, .done .completed⟩ := by
  have hletGo : ∀ {x : State}, x.slot = s.slot → x.letGo.1.slot.poller = none := by
    intro x hslot
    cases hp : x.letGo.1.slot.poller with
    | none => rfl
    | some p => cases (hslot ▸ poller_letGo hp : s.slot.poller = some p).symm.trans hempty
  cases h
  case install call _ logout polling _ =>
    exact Or.inr ⟨_, _, Or.inl ⟨call, polling⟩, logout, call?_setCall_self (s := s.leaveLine) call⟩
  case installStopped call logout _ =>
    exact Or.inr ⟨_, _, Or.inr ⟨_, call⟩, logout, call?_setCall_self call⟩
  case takeOut | replace => exact Or.inl rfl
  case drop | pollerGoesOn | settleFails | tickFails | abandon | shutdown | pollerFindsNone | pollerEnds =>
    exact Or.inl (hletGo rfl)
  all_goals exact Or.inl hempty

/-- Nothing comes into an empty slot when nobody calls. -/
theorem Step.slot_stays_empty (h : s.Step e t effects)
    (closed : ∀ c call, s.call? c = some call → call.isOpen = false) (hempty : s.slot.poller = none) :
    t.slot.poller = none := by
  obtain hempty | ⟨c, r, ⟨call, -⟩ | ⟨p, call⟩, -⟩ := h.slot_filled hempty
  · exact hempty
  · cases closed _ _ call
  · cases closed _ _ call

/-- Every step keeps at most one poller running on its own account. -/
theorem Step.exclusive (h : s.Step e t effects) (inv : s.Exclusive) (orderly : s.Orderly)
    (unsignalled : s.SlotUnsignalled) : t.Exclusive where
  inCharge {p} hrunning hunsignalled := by
    obtain hbefore | hslot := h.running_before hrunning
    · have hunsignalled' : s.isSignalled p = false := Bool.eq_false_iff.2 fun hs => by
        cases (h.isSignalled hs).symm.trans hunsignalled
      obtain hslot | hsignalled := h.slot_poller_or_signalled orderly (inv.inCharge hbefore hunsignalled')
      · exact hslot
      · cases hsignalled.symm.trans hunsignalled
    · exact hslot
  released {p} hp := by
    obtain hbefore | ⟨hnone, -, hempty⟩ := h.loose_before unsignalled hp
    · obtain ⟨hnone, hempty⟩ := inv.released hbefore
      exact ⟨h.handles_eq_zero hnone, h.slot_stays_empty (inv.closed hnone) hempty⟩
    · exact ⟨hnone, hempty⟩
  single {p q} hp hq := by
    obtain hp | ⟨-, hp, -⟩ := h.loose_before unsignalled hp
    · obtain hq | ⟨-, hq, -⟩ := h.loose_before unsignalled hq
      · exact inv.single hp hq
      · cases (inv.released hp).2.symm.trans hq
    · obtain hq | ⟨-, hq, -⟩ := h.loose_before unsignalled hq
      · cases (inv.released hq).2.symm.trans hp
      · exact Option.some.inj (hp.symm.trans hq)
  closed hnone _ _ hc := h.closed inv.closed hnone hc

end State

section
variable {config : Config} {table : Navigation.Table} {trace : Trace} {s : State}

theorem Run.exclusive (h : Run (.initial config table) trace s) : s.Exclusive := by
  refine h.induction (P := fun _ s => s.Exclusive) ⟨nofun, ?_, ?_, fun _ => nofun⟩ ?_
  · intro p hp
    cases hp.running
  · intro p q hp
    cases hp.running
  · intro l t e u effects hl inv step
    exact (State.Step.of_step? step).exclusive inv hl.orderly hl.watchful.unsignalled

/-- A poller that runs and was not told to stop is the one in the slot, so there is one at most; and
while no login, refresh or logout is under way, at most one poller runs, told to stop or not. -/
theorem at_most_one_poller (h : Run (.initial config table) trace s) :
    (∀ p, s.hasFinished p = false → s.isSignalled p = false → s.slot.poller = some p) ∧
    (∀ p q, s.hasFinished p = false → s.isSignalled p = false → s.hasFinished q = false →
      s.isSignalled q = false → p = q) ∧
    ((∀ c call, s.call? c = some call → call.isOpen = true →
        call.request = .check ∨ call.request = .polling) →
      ∀ p q, s.hasFinished p = false → s.hasFinished q = false → p = q) := by
  have inv := h.exclusive
  refine ⟨fun p => inv.inCharge, fun p q hp hp' hq hq' => ?_, fun idle p q hp hq => ?_⟩
  · exact Option.some.inj ((inv.inCharge hp hp').symm.trans (inv.inCharge hq hq'))
  -- A call that waits for a poller is a login, a refresh or a logout.
  have hloose : ∀ {p}, s.hasFinished p = false → s.isSignalled p = true → s.Loose p := by
    intro p hp hsignalled
    refine ⟨hp, hsignalled, fun c r hc => ?_⟩
    have hr := (hc ▸ h.account c : Account (some _) _ _ _).of_stopping
    obtain hcheck | hpolling : r = .check ∨ r = .polling := idle c _ hc rfl
    · rw [hcheck] at hr
      obtain hr | ⟨a, hr⟩ := hr <;> cases hr
    · rw [hpolling] at hr
      obtain hr | ⟨a, hr⟩ := hr <;> cases hr
  cases hp' : s.isSignalled p with
  | false =>
    cases hq' : s.isSignalled q with
    | false => exact Option.some.inj ((inv.inCharge hp hp').symm.trans (inv.inCharge hq hq'))
    | true => cases (inv.released (hloose hq hq')).2.symm.trans (inv.inCharge hp hp')
  | true =>
    cases hq' : s.isSignalled q with
    | false => cases (inv.released (hloose hp hp')).2.symm.trans (inv.inCharge hq hq')
    | true => exact inv.single (hloose hp hp') (hloose hq hq')

/-- A refresh that puts its poller in charge while a logout waits for the previous one, which is in the
middle of a check. -/
def refreshDuringLogout : List Event :=
  undisturbedLogin ++
    [.proceed (.poller 0), .elapse 30000000000, .tick 0, .proceed (.poller 0), .start 1 .logout,
      .proceed (.call 1), .proceed (.call 1), .start 2 .refresh, .proceed (.call 2),
      .answer (.call 2) (.user ⟨"ada", [], []⟩), .adopt 2 8, .proceed (.call 2), .proceed (.call 2),
      .answer (.poller 0) (.status .alive), .proceed (.poller 0), .shutdown 0, .proceed (.call 1),
      .answer (.call 1) .loggedOut, .proceed (.call 1)]

theorem at_most_one_poller_refreshDuringLogout :
    ∃ trace s, Run (.initial .standard .mainTabs) trace s ∧ s.isIdle = true ∧
      s.hasFinished 1 = false ∧ s.isSignalled 1 = false ∧ s.slot.poller = some 1 ∧
      ∀ q, s.hasFinished q = false → q = 1 := by
  have hrun : ∃ x, (State.initial .standard .mainTabs).follow? refreshDuringLogout = some x ∧
      x.2.isIdle = true ∧ x.2.hasFinished 1 = false ∧ x.2.isSignalled 1 = false :=
    ⟨_, rfl, rfl, rfl, rfl⟩
  obtain ⟨⟨trace, s⟩, hfollow, hidle, hrunning, hunsignalled⟩ := hrun
  have h := Run.of_follow? hfollow
  obtain ⟨hslot, -, hsingle⟩ := at_most_one_poller h
  refine ⟨trace, s, h, hidle, hrunning, hunsignalled, hslot 1 hrunning hunsignalled, fun q hq => ?_⟩
  refine hsingle (fun c call hc hopen => ?_) q 1 hq hrunning
  cases (State.isOpen_of_isIdle hidle hc).symm.trans hopen

end

end AdminConsole.Client
