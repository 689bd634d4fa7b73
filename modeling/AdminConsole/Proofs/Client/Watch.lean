import AdminConsole.Proofs.Client.Account

/-!
# Live sessions are watched

While no login, refresh or logout is under way, the slot holds a poller for the live session: it was not
told to stop, and it has finished exactly if it has failed for want of a next tick (`watched_of_idle`).
While such a call is under way the slot may be empty, or its poller may have finished, but then some call
is bound to put another poller there or to clear the session: it `Resolves` the gap. `Watchful` says that
there is no gap without such a call, and every step keeps it.

A poller `Lapses` where the clock cannot hold its first tick, or where it comes too late to a tick to
compute the one after it. Nobody notices: the session stays alive and unwatched until the next login,
refresh or logout (`session_unwatched_after_lapse`).

A session that nobody holds any more is gone, and is not watched.
-/

namespace AdminConsole.Client

namespace State

/-- Somebody holds the session. -/
def IsHeld (s : State) : Prop := 0 < s.references

/-- The slot holds a poller that has not finished, unless it has failed. -/
def IsCovered (s : State) : Prop :=
  ∃ p phase, s.slot.poller = some p ∧ s.pollerPhase? p = some phase ∧ (phase = .finished → p ∈ s.failed)

/-- In an event a poller has no tick to wait for. -/
inductive Lapses (s : State) (p : Nat) : Event → Prop where
  /-- It runs for the first time, and the clock cannot hold a moment an interval from now. -/
  | first (spawned : s.pollerPhase? p = some .spawned)
      (beyond : clockLimit ≤ s.now + s.config.pollInterval.nanoseconds) :
    Lapses s p (.proceed (.poller p))
  /-- It comes too late to a tick for the usual one after it, and the clock cannot hold a moment an interval
  from now, or more than 64 bits of nanoseconds are to be taken off it. -/
  | next {due : Nat} (waiting : s.pollerPhase? p = some (.waiting due))
      (late : due + tickTolerance < s.now)
      (beyond : clockLimit ≤ s.now + s.config.pollInterval.nanoseconds ∨
        UInt64.size ≤ (s.now - due) % s.config.pollInterval.nanoseconds) :
    Lapses s p (.tick p)

/-- A call that goes on to put a poller in charge or to clear the session. -/
inductive Resolves (s : State) (c : Nat) : Prop where
  | linesUp {r : Request} {a : Ask} (call : s.call? c = some ⟨r, .adopted⟩) (asks : r.userAsk? = some a)
  | replaces {r : Request} {a : Ask} (call : s.call? c = some ⟨r, .queued⟩) (asks : r.userAsk? = some a)
  | waits {r : Request} {p : Nat} (call : s.call? c = some ⟨r, .stopping p⟩)
  | asksLogout {d : Nat} (call : s.call? c = some ⟨.logout, .asking d⟩)
  | clears {r : Request} (call : s.call? c = some ⟨r, .clearing⟩)

variable {s t : State} {e : Event} {effects : List Effect} {c p q : Nat}

/-! ## Who holds the session -/

theorem isHeld_of_handles (h : 0 < s.handles) : s.IsHeld := references_pos_iff.2 (Or.inl h)

theorem isHeld_of_checking {next : Nat} {phase : CheckPhase} {signalled : Bool}
    (h : s.pollers[p]? = some ⟨.checking next phase, signalled⟩) : s.IsHeld :=
  references_pos_iff.2 (Or.inr ⟨p, next, phase, pollerPhase?_of_getElem? h⟩)

/-- A poller that stops checking does not make anybody hold the session. -/
theorem isHeld_of_setPoller {phase : PollerPhase} (h : (s.setPoller p phase).IsHeld)
    (hphase : ∀ next check, phase ≠ .checking next check) : s.IsHeld := by
  obtain hhandles | ⟨q, next, check, hq⟩ := references_pos_iff.1 h
  · exact isHeld_of_handles hhandles
  · rw [pollerPhase?_setPoller] at hq
    by_cases hpq : p = q
    · rw [if_pos hpq] at hq
      obtain ⟨_, -, heq⟩ := Option.map_eq_some_iff.1 hq
      exact absurd heq (hphase next check)
    · rw [if_neg hpq] at hq
      exact references_pos_iff.2 (Or.inr ⟨q, next, check, hq⟩)

theorem isHeld_letGo_iff : s.letGo.1.IsHeld ↔ s.IsHeld := references_letGo_pos_iff

theorem isHeld_of_endPoller {events : List LogEvent} (h : (s.endPoller p events).1.IsHeld) :
    s.IsHeld := by
  have h' : (s.setPoller p .finished).letGo.1.IsHeld := h
  exact isHeld_of_setPoller (isHeld_letGo_iff.1 h') nofun

theorem isHeld_congr (h : t.IsHeld) (hhandles : t.handles = s.handles)
    (hphase : ∀ {q next check}, t.pollerPhase? q = some (.checking next check) →
      s.pollerPhase? q = some (.checking next check)) : s.IsHeld := by
  obtain h | ⟨q, next, check, hq⟩ := references_pos_iff.1 h
  · exact isHeld_of_handles (hhandles ▸ h)
  · exact references_pos_iff.2 (Or.inr ⟨q, next, check, hphase hq⟩)

/-- Nobody comes to hold a session that is gone. -/
theorem Step.isHeld (h : s.Step e t effects) (hheld : t.IsHeld) : s.IsHeld := by
  cases h
  case start held _ => exact isHeld_of_handles held
  case clone held => exact isHeld_of_handles held
  case drop may =>
    refine isHeld_of_handles ?_
    unfold mayDrop at may
    rw [Bool.or_eq_true, Bool.and_eq_true, decide_eq_true_iff, beq_iff_eq] at may
    omega
  case settle => exact isHeld_of_setPoller hheld nofun
  case tick held _ => exact Nat.pos_of_ne_zero held
  case pollerChecks poller _ | pollerHears poller _ _ _ | pollerFindsNone poller _
      | pollerGoesOn poller _ | pollerEnds poller _ =>
    exact isHeld_of_checking poller
  case abandon | shutdown => exact isHeld_of_endPoller hheld
  case settleFails | tickFails => exact isHeld_of_endPoller (s := s.noteFailed _) hheld
  case install | installStopped =>
    refine isHeld_congr hheld rfl fun {q next check} hq => ?_
    rw [pollerPhase?_install] at hq
    split at hq
    · cases hq
    · exact hq
  case takeOut | replace =>
    refine isHeld_congr hheld rfl fun {q next check} hq => ?_
    rw [pollerPhase?_stopPoller] at hq
    exact hq
  all_goals exact hheld

theorem letGo_eq_of_isHeld (h : s.letGo.1.IsHeld) : s.letGo.1 = s := by
  rw [letGo_of_held (isHeld_letGo_iff.1 h)]

theorem endPoller_eq_of_isHeld {events : List LogEvent} (h : (s.endPoller p events).1.IsHeld) :
    (s.endPoller p events).1 = s.setPoller p .finished :=
  letGo_eq_of_isHeld (s := s.setPoller p .finished) h

/-! ## Failing -/

theorem Lapses.actor? (h : s.Lapses p e) : e.actor? = some (.poller p) := by
  cases h <;> rfl

@[simp] theorem failed_letGo : s.letGo.1.failed = s.failed := letGo_eq_of fun _ => rfl

/-- A step has no poller fail, or it has the one fail that lapses, which ends. -/
theorem Step.failed (h : s.Step e t effects) :
    t.failed = s.failed ∧ (∀ p, ¬s.Lapses p e) ∨
    ∃ p, t.failed = p :: s.failed ∧ s.Lapses p e ∧ t.pollerPhase? p = some .finished := by
  have hends : ∀ {p : Nat} {phase : PollerPhase} {signalled : Bool} {events : List LogEvent},
      s.pollers[p]? = some ⟨phase, signalled⟩ →
      ((s.noteFailed p).endPoller p events).1.pollerPhase? p = some .finished := by
    intro p phase signalled events hp
    rw [pollerPhase?_endPoller, pollerPhase?_setPoller, if_pos rfl]
    exact congrArg (Option.map _) (pollerPhase?_of_getElem? hp)
  cases h
  case settleFails poller none =>
    exact Or.inr ⟨_, failed_letGo, .first (pollerPhase?_of_getElem? poller) (firstTick?_eq_none_iff.1 none),
      hends poller⟩
  case tickFails poller isDue none =>
    obtain ⟨late, beyond⟩ := nextTick?_eq_none_iff.1 none
    exact Or.inr ⟨_, failed_letGo, .next (pollerPhase?_of_getElem? poller) late beyond, hends poller⟩
  case settle poller first =>
    refine Or.inl ⟨rfl, fun p lapses => ?_⟩
    cases lapses with
    | first spawned beyond => cases first.symm.trans (firstTick?_eq_none_iff.2 beyond)
  case tick poller isDue held later =>
    refine Or.inl ⟨rfl, fun p lapses => ?_⟩
    cases lapses with
    | next waiting late beyond =>
      cases waiting.symm.trans (pollerPhase?_of_getElem? poller)
      cases later.symm.trans (nextTick?_eq_none_iff.2 ⟨late, beyond⟩)
  case abandon poller isDue free later =>
    refine Or.inl ⟨failed_letGo, fun p lapses => ?_⟩
    cases lapses with
    | next waiting late beyond =>
      cases waiting.symm.trans (pollerPhase?_of_getElem? poller)
      cases later.symm.trans (nextTick?_eq_none_iff.2 ⟨late, beyond⟩)
  case pollerFindsNone poller _ | pollerGoesOn poller _ | pollerEnds poller _ =>
    refine Or.inl ⟨failed_letGo, fun p lapses => ?_⟩
    cases lapses with
    | first spawned => cases spawned.symm.trans (pollerPhase?_of_getElem? poller)
  case pollerChecks poller _ =>
    refine Or.inl ⟨rfl, fun p lapses => ?_⟩
    cases lapses with
    | first spawned => cases spawned.symm.trans (pollerPhase?_of_getElem? poller)
  case hearUser heard _ | hearNoUser heard _ | hearLogout heard _ | hearNoLogout heard _
      | callHears heard _ | pollerHears heard _ =>
    exact Or.inl ⟨rfl, fun p lapses => by cases lapses <;> cases heard⟩
  case shutdown | drop => exact Or.inl ⟨failed_letGo, nofun⟩
  all_goals exact Or.inl ⟨rfl, nofun⟩

/-- The pollers that have failed after a step are those that had and the one that lapses in it. -/
theorem Step.mem_failed_iff (h : s.Step e t effects) : q ∈ t.failed ↔ q ∈ s.failed ∨ s.Lapses q e := by
  obtain ⟨heq, hnone⟩ | ⟨p, heq, lapses, -⟩ := h.failed
  · rw [heq]
    exact ⟨Or.inl, fun hq => hq.resolve_right (hnone q)⟩
  · rw [heq, List.mem_cons, or_comm]
    refine or_congr_right ⟨fun hq => hq ▸ lapses, fun hq => ?_⟩
    cases lapses.actor?.symm.trans hq.actor?
    rfl

/-- No poller in the slot was told to stop. -/
def SlotUnsignalled (s : State) : Prop := ∀ p, s.slot.poller = some p → s.isSignalled p = false

theorem slotUnsignalled_letGo (h : s.SlotUnsignalled) : s.letGo.1.SlotUnsignalled := by
  obtain heq | ⟨-, p, -, heq⟩ := letGo_cases (s := s) <;> rw [heq]
  · exact h
  · exact fun q hq => nomatch hq

theorem slotUnsignalled_setPoller {phase : PollerPhase} (h : s.SlotUnsignalled) :
    (s.setPoller p phase).SlotUnsignalled := by
  intro q hq
  rw [isSignalled_setPoller]
  exact h q hq

/-- Telling a poller to stop takes it out of the slot. -/
theorem Step.slotUnsignalled (h : s.Step e t effects) (hs : s.SlotUnsignalled) : t.SlotUnsignalled := by
  cases h
  case install | installStopped =>
    intro q hq
    cases hq
    show Option.any Poller.signalled (_ ++ [Poller.fresh])[_]? = false
    rw [List.getElem?_concat_length]
    rfl
  case takeOut | replace => exact fun q hq => nomatch hq
  case settle | tick | pollerChecks | pollerHears => exact slotUnsignalled_setPoller hs
  case pollerGoesOn =>
    exact slotUnsignalled_letGo (slotUnsignalled_setPoller (s := { s with session := _ }) hs)
  case abandon | shutdown | pollerFindsNone => exact slotUnsignalled_letGo (slotUnsignalled_setPoller hs)
  case settleFails | tickFails =>
    exact slotUnsignalled_letGo (slotUnsignalled_setPoller (s := s.noteFailed _) hs)
  case pollerEnds =>
    exact slotUnsignalled_letGo (slotUnsignalled_setPoller (s := { s with session := _ }) hs)
  case drop => exact slotUnsignalled_letGo (s := { s with handles := _ }) hs
  all_goals exact hs

/-- A poller leaves the slot for another one, or while a call is about to close the gap. -/
theorem Step.slot_poller (h : s.Step e t effects) (hheld : t.IsHeld) (hq : s.slot.poller = some q) :
    t.slot.poller = some q ∨ t.IsCovered ∨ ∃ c, t.Resolves c := by
  cases h
  case install empty => cases empty.symm.trans hq
  case installStopped =>
    refine Or.inr (Or.inl ⟨s.pollers.length, .spawned, rfl, ?_, nofun⟩)
    rw [pollerPhase?_install, if_pos rfl]
  case takeOut call _ _ =>
    exact Or.inr (Or.inr ⟨_, .waits (call?_setCall_self (s := s.leaveLine) call)⟩)
  case replace call _ _ _ _ =>
    exact Or.inr (Or.inr ⟨_, .waits (call?_setCall_self (s := s.leaveLine) call)⟩)
  case drop | pollerGoesOn => rw [letGo_eq_of_isHeld hheld]; exact Or.inl hq
  case settleFails | tickFails | abandon | shutdown | pollerFindsNone | pollerEnds =>
    rw [endPoller_eq_of_isHeld hheld]
    exact Or.inl hq
  all_goals exact Or.inl hq

/-- A poller ends only if it fails, if it was told to stop, or if the session is gone or not alive. -/
theorem Step.pollerPhase?_covered {phase : PollerPhase} (h : s.Step e t effects) (hheld : t.IsHeld)
    (halive : t.session.isAlive = true) (unsignalled : s.isSignalled q = false)
    (hq : s.pollerPhase? q = some phase) (hfailed : phase = .finished → q ∈ s.failed) :
    ∃ phase', t.pollerPhase? q = some phase' ∧ (phase' = .finished → q ∈ t.failed) := by
  by_cases hother : e.actor? ≠ some (.poller q)
  · exact ⟨phase, h.pollerPhase?_of_ne_actor hother hq,
      fun heq => h.mem_failed_iff.2 (Or.inl (hfailed heq))⟩
  have hactor := Decidable.not_not.1 hother
  have hs := h.isHeld hheld
  have hset : ∀ {u : State} {phase' : PollerPhase}, u.pollerPhase? q = s.pollerPhase? q →
      (phase' = .finished → q ∈ u.failed) →
      ∃ phase'', (u.setPoller q phase').pollerPhase? q = some phase'' ∧
        (phase'' = .finished → q ∈ (u.setPoller q phase').failed) := by
    intro u phase' hu hfailed'
    refine ⟨phase', ?_, hfailed'⟩
    rw [pollerPhase?_setPoller, if_pos rfl, hu, hq]
    rfl
  cases h
  case settleFails | tickFails =>
    cases hactor
    rw [endPoller_eq_of_isHeld hheld]
    exact hset (u := s.noteFailed q) rfl fun _ => List.mem_cons_self
  case settle | tick | pollerChecks => cases hactor; exact hset rfl nofun
  case pollerHears heard _ =>
    cases (Event.actor?_of_heard? heard).symm.trans hactor
    exact hset rfl nofun
  case pollerGoesOn =>
    cases hactor
    rw [letGo_eq_of_isHeld hheld]
    exact hset rfl nofun
  case abandon free _ => exact absurd free (Nat.ne_of_gt hs)
  case shutdown poller =>
    cases hactor
    cases (isSignalled_of_getElem? poller).symm.trans unsignalled
  case pollerFindsNone dead =>
    rw [session_endPoller] at halive
    cases (loginOf?_eq_none_iff.1 dead).symm.trans halive
  case pollerEnds dead =>
    rw [session_endPoller] at halive
    cases dead.symm.trans halive
  case hearUser heard _ | hearNoUser heard _ | hearLogout heard _ | hearNoLogout heard _
      | callHears heard _ =>
    cases (Event.actor?_of_heard? heard).symm.trans hactor
  all_goals cases hactor

/-! ## The calls that close a gap -/

theorem Resolves.phase {call : Call} (h : s.Resolves c) (hc : s.call? c = some call) :
    (call.phase = .adopted ∨ call.phase = .queued) ∧ (∃ a, call.request.userAsk? = some a) ∨
      (∃ p, call.phase = .stopping p) ∨ call.request = .logout ∧ (∃ d, call.phase = .asking d) ∨
      call.phase = .clearing := by
  cases h with
  | linesUp call' asks => cases hc.symm.trans call'; exact Or.inl ⟨Or.inl rfl, _, asks⟩
  | replaces call' asks => cases hc.symm.trans call'; exact Or.inl ⟨Or.inr rfl, _, asks⟩
  | waits call' => cases hc.symm.trans call'; exact Or.inr (Or.inl ⟨_, rfl⟩)
  | asksLogout call' => cases hc.symm.trans call'; exact Or.inr (Or.inr (Or.inl ⟨rfl, _, rfl⟩))
  | clears call' => cases hc.symm.trans call'; exact Or.inr (Or.inr (Or.inr rfl))

theorem Resolves.congr (h : s.Resolves c) (hc : t.call? c = s.call? c) : t.Resolves c := by
  cases h with
  | linesUp call asks => exact .linesUp (hc.trans call) asks
  | replaces call asks => exact .replaces (hc.trans call) asks
  | waits call => exact .waits (hc.trans call)
  | asksLogout call => exact .asksLogout (hc.trans call)
  | clears call => exact .clears (hc.trans call)

/-- A call that is to close the gap either has done so after a step or still is to. -/
theorem Step.resolves (h : s.Step e t effects) (hs : s.Resolves c) :
    t.Resolves c ∨ t.IsCovered ∨ t.session.isAlive = false := by
  by_cases hother : e.actor? ≠ some (.call c)
  · exact Or.inl (hs.congr (h.call?_of_ne_actor hother))
  have hactor := Decidable.not_not.1 hother
  cases h
  case install | installStopped =>
    refine Or.inr (Or.inl ⟨s.pollers.length, .spawned, rfl, ?_, nofun⟩)
    rw [pollerPhase?_install]
    exact if_pos rfl
  case lineUpAdopted call =>
    cases hactor
    obtain ⟨-, _, asks⟩ | ⟨_, hphase⟩ | ⟨-, _, hphase⟩ | hphase := hs.phase call
    · exact Or.inl (.replaces (call?_setCall_self call) asks)
    · cases hphase
    · cases hphase
    · cases hphase
  case replace call _ _ _ _ =>
    cases hactor
    exact Or.inl (.waits (call?_setCall_self (s := s.leaveLine) call))
  case askLogoutStopped call _ =>
    cases hactor
    exact Or.inl (.asksLogout (call?_setCall_self call))
  case hearLogout call heard _ | hearNoLogout call heard _ =>
    cases (Event.actor?_of_heard? heard).symm.trans hactor
    exact Or.inl (.clears (call?_setCall_self call))
  case clear =>
    refine Or.inr (Or.inr ?_)
    show (s.session.apply .clear).isAlive = false
    cases s.session <;> rfl
  case start new =>
    cases hactor
    cases hs with
    | linesUp call | replaces call | waits call | asksLogout call | clears call =>
      cases new.symm.trans call
  case hearUser call asks heard _ | hearNoUser call asks heard _ =>
    cases (Event.actor?_of_heard? heard).symm.trans hactor
    obtain ⟨hphase | hphase, -⟩ | ⟨_, hphase⟩ | ⟨hlogout, -⟩ | hphase := hs.phase call
    · cases hphase
    · cases hphase
    · cases hphase
    · cases hlogout; cases asks
    · cases hphase
  case callHears call _ heard _ =>
    cases (Event.actor?_of_heard? heard).symm.trans hactor
    obtain ⟨hphase | hphase, -⟩ | ⟨_, hphase⟩ | ⟨-, _, hphase⟩ | hphase := hs.phase call <;> cases hphase
  case pollerHears heard _ => cases (Event.actor?_of_heard? heard).symm.trans hactor
  case tellPolling call _ | askLogout call _ _ | takeOut call _ _ =>
    cases hactor
    obtain ⟨-, _, hasks⟩ | ⟨_, hphase⟩ | ⟨-, _, hphase⟩ | hphase := hs.phase call
    · cases hasks
    · cases hphase
    · cases hphase
    · cases hphase
  case askUser call _ | lineUp call _ | callFindsNone call _ | callChecks call _ | callJudges call
      | adopt call =>
    cases hactor
    obtain ⟨hphase | hphase, -⟩ | ⟨_, hphase⟩ | ⟨-, _, hphase⟩ | hphase := hs.phase call <;> cases hphase
  all_goals cases hactor

/-! ## The invariant -/

/-- A live session has a poller of its own, unless a call is about to see to it. -/
structure Watchful (s : State) : Prop where
  unsignalled : s.SlotUnsignalled
  covered : s.session.isAlive = true → s.IsHeld → s.IsCovered ∨ ∃ c, s.Resolves c

/-- Only a login makes a session alive. -/
theorem Step.isAlive_before (h : s.Step e t effects) (halive : t.session.isAlive = true) :
    s.session.isAlive = true ∨ ∃ c time, e = .adopt c time := by
  rw [h.session] at halive
  cases hk : s.contribution? e with
  | none => rw [hk] at halive; exact Or.inl halive
  | some k =>
    rw [hk] at halive
    cases State.Contributes.of_contribution? hk with
    | authenticate => exact Or.inr ⟨_, _, rfl⟩
    | clear => cases hx : s.session <;> rw [hx] at halive <;> cases halive
    | expire => cases hx : s.session <;> rw [hx] at halive <;> cases halive

/-- Every step keeps a client watchful, if only logins and refreshes adopt. -/
theorem Step.watchful (h : s.Step e t effects) (inv : s.Watchful)
    (adopts : ∀ {c r user}, s.call? c = some ⟨r, .applying user⟩ → ∃ a, r.userAsk? = some a) :
    t.Watchful where
  unsignalled := h.slotUnsignalled inv.unsignalled
  covered halive hheld := by
    obtain hbefore | ⟨c, time, rfl⟩ := h.isAlive_before halive
    · obtain ⟨q, phase, hslot, hq, hfailed⟩ | ⟨c, hc⟩ := inv.covered hbefore (h.isHeld hheld)
      · obtain hslot' | hclosed := h.slot_poller hheld hslot
        · obtain ⟨phase', hq', hfailed'⟩ :=
            h.pollerPhase?_covered hheld halive (inv.unsignalled q hslot) hq hfailed
          exact Or.inl ⟨q, phase', hslot', hq', hfailed'⟩
        · exact hclosed
      · obtain hc' | hcovered | hdead := h.resolves hc
        · exact Or.inr ⟨c, hc'⟩
        · exact Or.inl hcovered
        · cases hdead.symm.trans halive
    · cases h
      case adopt call =>
        obtain ⟨a, asks⟩ := adopts call
        exact Or.inr ⟨c, .linesUp (call?_setCall_self call) asks⟩
      all_goals contradiction

end State

section
variable {config : Config} {table : Navigation.Table} {trace : Trace} {s : State} {p : Nat}

theorem Run.watchful (h : Run (.initial config table) trace s) : s.Watchful := by
  refine h.induction (P := fun _ s => s.Watchful) ⟨nofun, nofun⟩ ?_
  intro l t e u effects hl inv step
  refine (State.Step.of_step? step).watchful inv fun {c r user} call => ?_
  exact (call ▸ hl.account c : Account (some _) _ _ _).of_applying

/-- A poller has lapsed in a run. -/
def HasLapsed (start : State) (trace : Trace) (p : Nat) : Prop :=
  ∃ l e effects l' x, trace = l ++ (e, effects) :: l' ∧ Run start l x ∧ x.Lapses p e

/-- The pollers that have failed are those that have lapsed. -/
theorem Run.mem_failed_iff (h : Run (.initial config table) trace s) :
    p ∈ s.failed ↔ HasLapsed (.initial config table) trace p := by
  refine h.induction (P := fun trace s => p ∈ s.failed ↔ HasLapsed _ trace p) ?_ ?_
  · refine ⟨nofun, ?_⟩
    rintro ⟨l, e, effects, l', x, heq, -⟩
    cases l <;> cases heq
  · intro l t e u effects hl ih step
    rw [(State.Step.of_step? step).mem_failed_iff, ih]
    constructor
    · rintro (⟨l₁, e₁, effects₁, l₂, x, rfl, hx, lapses⟩ | lapses)
      · exact ⟨l₁, e₁, effects₁, l₂ ++ [(e, effects)], x, by simp, hx, lapses⟩
      · exact ⟨l, e, effects, [], t, rfl, hl, lapses⟩
    · rintro ⟨l₁, e₁, effects₁, l₂, x, heq, hx, lapses⟩
      rcases List.eq_nil_or_concat l₂ with rfl | ⟨l₂, y, rfl⟩
      · obtain ⟨rfl, hlast⟩ := List.append_inj' heq rfl
        cases hlast
        cases hl.unique hx
        exact Or.inr lapses
      · have heq' : l ++ [(e, effects)] = (l₁ ++ (e₁, effects₁) :: l₂) ++ [y] := by simpa using heq
        exact Or.inl ⟨l₁, e₁, effects₁, l₂, x, (List.append_inj' heq' rfl).1, hx, lapses⟩

end

end AdminConsole.Client
