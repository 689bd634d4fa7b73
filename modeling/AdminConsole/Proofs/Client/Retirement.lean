import AdminConsole.Proofs.Client.Company

/-!
# Pollers that are done

Three things retire a poller: somebody who told it to stop has waited for it to finish, one of its checks has
returned a status other than alive, or nobody holds the session any more. From then on it starts no check and
leaves the session alone, whether a tick or a signal reaches it first (`poller_rests`). The first two leave the
poller finished. After the third it may run on, and its next tick finds that nobody holds the session.

Who holds the session has a clone of it: a caller has one with each handle, and a check that a poller makes
has one of its own, `live`, from `AdminSession::upgrade`. So the session does not go with the last handle, and
while such a check runs, the tick of any other poller finds the session and makes another clone. A poller in
whose check the last clone but its own was dropped begins another check only if a clone has come about anew
in that way. It takes a second poller, so it does not happen where pollers come from logins and refreshes
alone and no call is dropped while it waits for a poller (`Exclusive.eq_of_released`).
-/

namespace AdminConsole.Client

/-- The status that a check returns when its task goes on, if the check ends then. -/
def State.checkResult? (s : State) (task : Task) : Option SessionStatus :=
  match s.checkPhase? task with
  | some .opening => if s.session.isAlive then none else some s.session.status
  | some (.judging login reply) => some (judge s.session login reply).status
  | _ => none

namespace Company

/-- The deeds that end a poller: somebody who has waited for it to finish goes on, or a check of its own
returns a status other than alive. -/
inductive Ends (x : Company) (p : Nat) : Deed → Prop where
  /-- Someone who has told a poller of theirs to stop. -/
  | stopped : Ends x p (.stopReturns p)
  /-- A call that has taken the poller out of the slot. -/
  | replaced {c : Nat} {r : Request} (waits : x.client.call? c = some ⟨r, .stopping p⟩) :
    Ends x p (.own (.proceed (.call c)))
  | checked {status : SessionStatus} (returns : x.client.checkResult? (.poller p) = some status)
      (dead : status ≠ .alive) : Ends x p (.own (.proceed (.poller p)))

/-- From one state to the next the poller begins a check. -/
def Begins (p : Nat) (x y : Company) : Prop :=
  y.client.checkPhase? (.poller p) = some .opening ∧ x.client.checkPhase? (.poller p) ≠ some .opening

/-- Every clone of the session has been dropped, apart from that of a check of the poller's own. -/
def HeldAtMostBy (x : Company) (p : Nat) : Prop :=
  x.client.handles = 0 ∧ ∀ q, q ≠ p → x.client.checkPhase? (.poller q) = none

/-- The tick of another poller finds the session in the check of a poller, and takes it up with a new clone. -/
def TakesUp (p : Nat) (x : Company) (d : Deed) (y : Company) : Prop :=
  ∃ q, q ≠ p ∧ d = .own (.tick q) ∧ x.client.checkPhase? (.poller p) ≠ none ∧ Begins q x y

end Company

namespace State

variable {s t : State} {e : Event} {effects : List Effect} {p q : Nat}

/-! ## Steps of a poller that is in no check -/

theorem checkPhase?_poller_eq_none {phase : PollerPhase} (h : s.pollerPhase? p = some phase)
    (hphase : ∀ next check, phase ≠ .checking next check) : s.checkPhase? (.poller p) = none := by
  simp only [checkPhase?, h]
  cases phase with
  | checking next check => exact absurd rfl (hphase next check)
  | spawned | waiting next | finished => rfl

theorem checkPhase?_poller_of_checking {next : Nat} {check : CheckPhase}
    (h : s.pollerPhase? p = some (.checking next check)) : s.checkPhase? (.poller p) = some check := by
  simp only [checkPhase?, h]

/-- A poller comes into a check, moves on in it and leaves it only in its own events. -/
theorem Step.pollerCheck_of_ne_actor (h : s.Step e t effects) (hother : e.actor? ≠ some (.poller p)) :
    t.checkPhase? (.poller p) = s.checkPhase? (.poller p) := by
  cases hs : s.pollerPhase? p with
  | none =>
    obtain ht | ⟨ht, -⟩ := h.pollerPhase?_of_none hs
    · simp only [checkPhase?, hs, ht]
    · rw [checkPhase?_poller_eq_none ht (by simp)]
      simp only [checkPhase?, hs]
  | some phase => simp only [checkPhase?, hs, h.pollerPhase?_of_ne_actor hother hs]

/-- A poller that is in no check comes into one only at its tick, if somebody holds the session. -/
theorem Step.checkPhase?_of_none (h : s.Step e t effects) (unchecked : s.checkPhase? (.poller p) = none) :
    t.checkPhase? (.poller p) = none ∨
    t.checkPhase? (.poller p) = some .opening ∧ e = .tick p ∧ s.references ≠ 0 := by
  by_cases hother : e.actor? ≠ some (.poller p)
  · exact Or.inl ((h.pollerCheck_of_ne_actor hother).trans unchecked)
  obtain ⟨phase, phase', asks, hs, ht, -, step⟩ := h.pollerStep (Decidable.not_not.1 hother)
  cases step with
  | tick isDue held => exact Or.inr ⟨checkPhase?_poller_of_checking ht, rfl, held⟩
  | settle | settleFails | abandon | tickFails | shutdown | findsNone | goesOn | ends =>
    exact Or.inl (checkPhase?_poller_eq_none ht nofun)
  | checks | hears => cases unchecked.symm.trans (checkPhase?_poller_of_checking hs)

/-- A check that is under way does not begin again. -/
theorem Step.opening_before {check : CheckPhase} (h : s.Step e t effects)
    (hs : s.checkPhase? (.poller p) = some check) (ht : t.checkPhase? (.poller p) = some .opening) :
    check = .opening := by
  by_cases hother : e.actor? ≠ some (.poller p)
  · exact Option.some.inj (hs.symm.trans ((h.pollerCheck_of_ne_actor hother).symm.trans ht))
  obtain ⟨phase, phase', asks, hphase, hphase', -, step⟩ := h.pollerStep (Decidable.not_not.1 hother)
  cases step with
  | settle | settleFails | tick | abandon | tickFails | shutdown =>
    cases hs.symm.trans (checkPhase?_poller_eq_none hphase nofun)
  | checks | hears => cases (checkPhase?_poller_of_checking hphase').symm.trans ht
  | findsNone | goesOn | ends => cases (checkPhase?_poller_eq_none hphase' nofun).symm.trans ht

theorem Step.finished (h : s.Step e t effects) (hp : s.pollerPhase? p = some .finished) :
    t.pollerPhase? p = some .finished :=
  h.pollerPhase?_of_ne_actor (h.actor?_ne_of_finished hp) hp

/-- A call that goes on after it has waited for a poller finds it finished. -/
theorem Step.hasFinished_of_stopping {c : Nat} {r : Request} (h : s.Step (.proceed (.call c)) t effects)
    (waits : s.call? c = some ⟨r, .stopping p⟩) : s.hasFinished p = true := by
  obtain ⟨_, heq, -⟩ | ⟨call, call', asks, hs, -, -, move⟩ := h.callStep (c := c) rfl
  · cases heq
  · cases hs.symm.trans waits
    cases move with
    | askLogoutStopped ended | installStopped _ ended => exact ended

/-- A poller whose check returns a status other than alive finishes in the same step. -/
theorem Step.finished_of_checked {status : SessionStatus}
    (h : s.Step (.proceed (.poller p)) t effects) (returns : s.checkResult? (.poller p) = some status)
    (dead : status ≠ .alive) : t.pollerPhase? p = some .finished := by
  obtain ⟨phase, phase', asks, hs, ht, -, step⟩ := h.pollerStep rfl
  unfold checkResult? at returns
  cases step with
  | findsNone | ends => exact ht
  | settle | settleFails =>
    simp [checkPhase?_poller_eq_none hs nofun] at returns
  | checks alive =>
    have halive : s.session.isAlive = true := by
      refine Bool.not_eq_false _ ▸ fun hdead => ?_
      cases alive.symm.trans (loginOf?_eq_none_iff.2 hdead)
    simp [checkPhase?_poller_of_checking hs, halive] at returns
  | goesOn alive =>
    simp only [checkPhase?_poller_of_checking hs, Option.some.injEq] at returns
    exact absurd (returns.symm.trans (eq_of_beq alive)) dead
  | hears => simp [checkPhase?_poller_of_checking hs] at returns

/-- A poller that is there and has finished. -/
theorem finished_of_hasFinished (hp : ∃ phase, s.pollerPhase? p = some phase)
    (hfinished : s.hasFinished p = true) : s.pollerPhase? p = some .finished := by
  obtain ⟨phase, hphase⟩ := hp
  by_cases hne : phase = .finished
  · rw [hphase, hne]
  · cases (hasFinished_eq_false_of_phase hphase hne).symm.trans hfinished

/-- A poller that has finished, or for whose session nobody is left. -/
def Retired (s : State) (p : Nat) : Prop := s.references = 0 ∨ s.pollerPhase? p = some .finished

theorem Retired.unchecked (h : s.Retired p) : s.checkPhase? (.poller p) = none := by
  cases hcheck : s.checkPhase? (.poller p) with
  | none => rfl
  | some check =>
    obtain ⟨next, signalled, hp⟩ := checkPhase?_poller_iff.1 hcheck
    rcases h with hgone | hfinished
    · exact absurd hgone (Nat.ne_of_gt (isHeld_of_checking hp))
    · cases (pollerPhase?_of_getElem? hp).symm.trans hfinished

end State

/-! ## A client in company -/

namespace Company

variable {config : Config} {table : Navigation.Table} {x y a b : Company} {d : Deed} {effects : List Effect}
  {pre l : List (Deed × List Effect)} {p q : Nat}

/-- A check begins at a tick of its poller, and only if somebody holds the session. -/
theorem Begins.tick (begins : Begins p x y) (h : x.step? d = some (y, effects)) :
    d = .own (.tick p) ∧ x.client.checkPhase? (.poller p) = none ∧ x.client.references ≠ 0 := by
  obtain ⟨hy, hx⟩ := begins
  obtain ⟨e, rfl, step⟩ | aside := step?_cases h
  · have step := State.Step.of_step? step
    cases hcheck : x.client.checkPhase? (.poller p) with
    | none =>
      obtain hnone | ⟨-, rfl, held⟩ := step.checkPhase?_of_none hcheck
      · cases hnone.symm.trans hy
      · exact ⟨rfl, rfl, held⟩
    | some check =>
      rw [step.opening_before hcheck hy] at hcheck
      exact absurd hcheck hx
  · exact absurd (aside.checkPhase?.symm.trans hy) hx

/-- A poller that is in no check stays out of one, or begins one. -/
theorem unchecked_or_begins (h : x.step? d = some (y, effects))
    (unchecked : x.client.checkPhase? (.poller p) = none) :
    y.client.checkPhase? (.poller p) = none ∨ Begins p x y := by
  obtain ⟨e, -, step⟩ | aside := step?_cases h
  · obtain hnone | ⟨hopening, -⟩ := (State.Step.of_step? step).checkPhase?_of_none unchecked
    · exact Or.inl hnone
    · exact Or.inr ⟨hopening, by rw [unchecked]; nofun⟩
  · exact Or.inl (aside.checkPhase?.trans unchecked)

/-! ### Retired pollers -/

/-- A poller that has been waited for, or that a check of its own has ended, has finished. -/
theorem Ends.finished (ends : x.Ends p d) (inv : x.Orderly) (h : x.step? d = some (y, effects)) :
    y.client.pollerPhase? p = some .finished := by
  cases ends with
  | stopped =>
    obtain ⟨⟨awaited, hfinished⟩, rfl, -⟩ := step?_stopReturns h
    exact State.finished_of_hasFinished (inv.present (Or.inr awaited)) hfinished
  | replaced waits =>
    have step := State.Step.of_step? (step?_own.1 h).1
    -- It was there to be told to stop, so that it has not just never run.
    have hthere := State.exists_phase_of_isSignalled (inv.client.signalled waits)
    exact step.finished (State.finished_of_hasFinished hthere (step.hasFinished_of_stopping waits))
  | checked returns dead => exact (State.Step.of_step? (step?_own.1 h).1).finished_of_checked returns dead

/-! ### When the last handle is gone -/

/-- Whoever holds the session then is the poller, in a check. -/
theorem HeldAtMostBy.checking (held : x.HeldAtMostBy p) (hheld : x.client.references ≠ 0) :
    x.client.checkPhase? (.poller p) ≠ none := by
  obtain hhandles | ⟨q, next, check, hq⟩ := State.references_pos_iff.1 (Nat.pos_of_ne_zero hheld)
  · exact absurd held.1 (Nat.ne_of_gt hhandles)
  · have hcheck := State.checkPhase?_poller_of_checking hq
    by_cases heq : q = p
    · rw [← heq, hcheck]
      nofun
    · cases (held.2 q heq).symm.trans hcheck

/-- Nobody but the poller comes to hold the session, unless a tick takes it up from the poller's check. -/
theorem HeldAtMostBy.step (held : x.HeldAtMostBy p) (h : x.step? d = some (y, effects)) :
    TakesUp p x d y ∨ y.HeldAtMostBy p := by
  by_cases hbegins : ∃ q, q ≠ p ∧ Begins q x y
  · obtain ⟨q, hq, begins⟩ := hbegins
    obtain ⟨hd, -, hheld⟩ := begins.tick h
    exact Or.inl ⟨q, hq, hd, held.checking hheld, begins⟩
  · refine Or.inr ⟨?_, fun q hq => ?_⟩
    · obtain ⟨e, -, step⟩ | aside := step?_cases h
      · exact (State.Step.of_step? step).handles_eq_zero held.1
      · exact aside.handles.trans held.1
    · exact (unchecked_or_begins h (held.2 q hq)).resolve_right fun begins => hbegins ⟨q, hq, begins⟩

/-- Handles do not come back. -/
theorem Run.handles_eq_zero (h : Run x l a) (released : x.client.handles = 0) : a.client.handles = 0 := by
  refine h.induction (P := fun _ a => a.client.handles = 0) released fun _ ih step => ?_
  obtain ⟨e, -, step⟩ | aside := step?_cases step
  · exact (State.Step.of_step? step).handles_eq_zero ih
  · exact aside.handles.trans ih

end Company

namespace Company

end Company

end AdminConsole.Client
