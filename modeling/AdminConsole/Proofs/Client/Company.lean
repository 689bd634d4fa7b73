import AdminConsole.Client.Company
import AdminConsole.Proofs.Client.Exclusive

/-!
# Runs of a client in company

What others do stands `Aside` from the client's own steps: every poller stays in its phase, and the
session and the handles stay as they are. So a statement about pollers that every step of the client keeps
is kept in company too.

What company does change is who runs. A poller that someone starts is beside the one in the slot, and a
poller that a dropped call has waited for runs on with nobody to wait for it: such deeds `Loosen` a poller.
Without them the client is as exclusive as it is by itself (`Run.lone`).
-/

namespace AdminConsole.Client

namespace State

/-- From a state to another: the pollers stay in their phases, but for new ones, and nobody asks anything. -/
structure Aside (s t : State) (effects : List Effect) : Prop where
  session : t.session = s.session
  handles : t.handles = s.handles
  phase : ∀ p, t.pollerPhase? p = s.pollerPhase? p ∨
    s.pollerPhase? p = none ∧ t.pollerPhase? p = some .spawned
  silent : ∀ task, asksIn task effects = []

variable {s t : State} {e : Event} {effects : List Effect} {c d p q : Nat}

theorem Aside.pollerPhase? {phase : PollerPhase} (h : s.Aside t effects)
    (hp : s.pollerPhase? p = some phase) : t.pollerPhase? p = some phase := by
  obtain heq | ⟨hnone, -⟩ := h.phase p
  · rw [heq, hp]
  · cases hnone.symm.trans hp

theorem Aside.checkPhase? (h : s.Aside t effects) :
    t.checkPhase? (.poller p) = s.checkPhase? (.poller p) := by
  obtain heq | ⟨hnone, hnew⟩ := h.phase p
  · simp only [State.checkPhase?, heq]
  · simp only [State.checkPhase?, hnone, hnew]

/-! ## One deed of others -/

theorem pollerPhase?_spawn :
    s.spawn.pollerPhase? q = if q = s.pollers.length then some .spawned else s.pollerPhase? q :=
  pollerPhase?_install (c := 0)

theorem aside_spawn : s.Aside s.spawn [.woken (.poller s.pollers.length)] := by
  refine ⟨rfl, rfl, fun q => ?_, fun _ => rfl⟩
  by_cases hq : q = s.pollers.length
  · have hnone : s.pollerPhase? q = none := by
      rw [State.pollerPhase?, List.getElem?_eq_none (Nat.le_of_eq hq.symm)]
      rfl
    rw [pollerPhase?_spawn, if_pos hq]
    exact Or.inr ⟨hnone, rfl⟩
  · rw [pollerPhase?_spawn, if_neg hq]
    exact Or.inl rfl

theorem aside_signal : s.Aside (s.signal p) [.woken (.poller p)] :=
  ⟨rfl, rfl, fun _ => Or.inl pollerPhase?_signal, fun _ => rfl⟩

theorem aside_abandon : s.Aside (s.abandon c).1 (s.abandon c).2 := by
  refine ⟨rfl, rfl, fun _ => Or.inl rfl, fun task => ?_⟩
  show asksIn task (if _ then _ else _) = []
  split
  · exact asksIn_wakeNext
  · rfl

theorem aside_logged {events : List LogEvent} : s.Aside s (logged events) :=
  ⟨rfl, rfl, fun _ => Or.inl rfl, fun _ => asksIn_logged⟩

/-- A call that is dropped is gone, and the others stay. -/
theorem call?_abandon : (s.abandon c).1.call? d = if d = c then none else s.call? d := by
  show (s.calls.filter fun x => x.1 ≠ c).lookup d = if d = c then none else s.calls.lookup d
  induction s.calls with
  | nil => simp
  | cons x l ih =>
    obtain ⟨k, call⟩ := x
    rw [List.lookup_cons]
    by_cases hk : k = c
    · subst hk
      rw [List.filter_cons_of_neg (by simp), ih]
      by_cases hd : d = k
      · rw [if_pos hd, if_pos hd]
      · rw [if_neg hd, if_neg hd, beq_eq_false_iff_ne.2 hd]
    · rw [List.filter_cons_of_pos (by simpa using hk), List.lookup_cons, ih]
      by_cases hd : d = c
      · subst hd
        rw [if_pos rfl, if_pos rfl, beq_eq_false_iff_ne.2 (Ne.symm hk)]
      · rw [if_neg hd, if_neg hd]

theorem call?_abandon_eq_some_iff {call : Call} :
    (s.abandon c).1.call? d = some call ↔ d ≠ c ∧ s.call? d = some call := by
  rw [call?_abandon]
  by_cases hd : d = c
  · rw [if_pos hd]
    exact ⟨nofun, fun h => absurd hd h.1⟩
  · rw [if_neg hd, and_iff_right hd]

/-! ## The slot -/

theorem Orderly.spawn (inv : s.Orderly) : s.spawn.Orderly :=
  inv.congr (fun _ => Iff.rfl) rfl rfl id (fun hq => (isSignalled_install (c := 0)).trans hq)
    (by simp [State.spawn])

theorem Orderly.signal (inv : s.Orderly) : (s.signal p).Orderly :=
  inv.congr (fun _ => Iff.rfl) rfl rfl id isSignalled_signal
    (Nat.le_of_eq (List.length_modify _ _ _).symm)

/-- A call that is dropped leaves the line, and keeps the slot no longer. -/
theorem Orderly.abandon (inv : s.Orderly) : (s.abandon c).1.Orderly where
  holder d := by
    show (if s.slot.holder = some c then none else s.slot.holder) = some d ↔ _
    simp only [call?_abandon_eq_some_iff]
    by_cases hc : s.slot.holder = some c
    · rw [if_pos hc]
      refine ⟨nofun, ?_⟩
      rintro ⟨r, p, ⟨hne, hd⟩, hr⟩
      cases hc.symm.trans ((inv.holder d).2 ⟨r, p, hd, hr⟩)
      exact absurd rfl hne
    · rw [if_neg hc, inv.holder d]
      constructor
      · rintro ⟨r, p, hd, hr⟩
        refine ⟨r, p, ⟨?_, hd⟩, hr⟩
        rintro rfl
        exact hc ((inv.holder d).2 ⟨r, p, hd, hr⟩)
      · rintro ⟨r, p, ⟨-, hd⟩, hr⟩
        exact ⟨r, p, hd, hr⟩
  empty hkept := by
    refine inv.empty fun hfree => hkept ?_
    show (if s.slot.holder = some c then none else s.slot.holder) = none
    rw [hfree]
    rfl
  signalled hd := inv.signalled (call?_abandon_eq_some_iff.1 hd).2
  line d := by
    show d ∈ s.slot.line.erase c ↔ _
    rw [inv.nodup.mem_erase_iff, inv.line d]
    simp only [call?_abandon_eq_some_iff]
    exact ⟨fun ⟨hne, r, hd⟩ => ⟨r, hne, hd⟩, fun ⟨r, hne, hd⟩ => ⟨hne, r, hd⟩⟩
  nodup := inv.nodup.erase c
  present := inv.present

/-- Dropping a call that waits for no poller leaves the poller in the slot the only one. -/
theorem Exclusive.abandon (inv : s.Exclusive) (unawaiting : ∀ r p, s.call? c ≠ some ⟨r, .stopping p⟩) :
    (s.abandon c).1.Exclusive := by
  have hloose : ∀ {p}, (s.abandon c).1.Loose p → s.Loose p := by
    intro p hp
    refine ⟨hp.running, hp.signalled, fun d r hd => ?_⟩
    by_cases hdc : d = c
    · subst hdc
      exact unawaiting r p hd
    · exact hp.unawaited d r (call?_abandon_eq_some_iff.2 ⟨hdc, hd⟩)
  exact ⟨inv.inCharge, fun hp => inv.released (hloose hp), fun hp hq => inv.single (hloose hp) (hloose hq),
    fun hnone d call hd => inv.closed hnone d call (call?_abandon_eq_some_iff.1 hd).2⟩

theorem Step.exists_pollerPhase (h : s.Step e t effects) (hp : ∃ phase, s.pollerPhase? p = some phase) :
    ∃ phase, t.pollerPhase? p = some phase := by
  by_cases hother : e.actor? ≠ some (.poller p)
  · obtain ⟨phase, hp⟩ := hp
    exact ⟨phase, h.pollerPhase?_of_ne_actor hother hp⟩
  · obtain ⟨-, phase, -, -, ht, -, -⟩ := h.pollerStep (Decidable.not_not.1 hother)
    exact ⟨phase, ht⟩

end State

namespace Company

variable {config : Config} {table : Navigation.Table} {x y z a b : Company} {d : Deed}
  {effects : List Effect} {trace l r : List (Deed × List Effect)} {e : Event} {p : Nat}

/-! ## One deed -/

theorem step?_own :
    x.step? (.own e) = some (y, effects) ↔
      x.client.step? e = some (y.client, effects) ∧ y.kept = x.kept ∧ y.awaited = x.awaited := by
  obtain ⟨t, kept, awaited⟩ := y
  rw [step?, Option.map_eq_some_iff]
  constructor
  · rintro ⟨⟨t, effects⟩, h, heq⟩
    cases heq
    exact ⟨h, rfl, rfl⟩
  · rintro ⟨h, rfl, rfl⟩
    exact ⟨_, h, rfl⟩

theorem step?_stop (h : x.step? (.stop p) = some (y, effects)) :
    p ∈ x.kept ∧ y = ⟨x.client.signal p, x.kept.erase p, p :: x.awaited⟩ ∧ effects = [.woken (.poller p)] := by
  rw [step?] at h
  split at h
  · rename_i hp
    cases h
    exact ⟨hp, rfl, rfl⟩
  · cases h

theorem step?_stopReturns (h : x.step? (.stopReturns p) = some (y, effects)) :
    (p ∈ x.awaited ∧ x.client.hasFinished p = true) ∧ y = { x with awaited := x.awaited.erase p } ∧
      effects = logged (x.client.joinEvents p) := by
  rw [step?] at h
  split at h
  · rename_i hp
    cases h
    exact ⟨hp, rfl, rfl⟩
  · cases h

theorem step?_release (h : x.step? (.release p) = some (y, effects)) :
    (p ∈ x.kept ∨ p ∈ x.awaited) ∧ y = ⟨x.client.signal p, x.kept.erase p, x.awaited.erase p⟩ ∧
      effects = [.woken (.poller p)] := by
  rw [step?] at h
  split at h
  · rename_i hp
    cases h
    exact ⟨hp, rfl, rfl⟩
  · cases h

theorem step?_abandon {c : Nat} (h : x.step? (.abandon c) = some (y, effects)) :
    y = { x with client := (x.client.abandon c).1 } ∧ effects = (x.client.abandon c).2 := by
  rw [step?] at h
  split at h
  · split at h
    · cases h
      exact ⟨rfl, rfl⟩
    · cases h
  · cases h

/-- A deed is an event of the client or stands aside from it. -/
theorem step?_cases (h : x.step? d = some (y, effects)) :
    (∃ e, d = .own e ∧ x.client.step? e = some (y.client, effects)) ∨ x.client.Aside y.client effects := by
  cases d with
  | own e => exact Or.inl ⟨e, rfl, (step?_own.1 h).1⟩
  | spawn =>
    cases h
    exact Or.inr State.aside_spawn
  | stop p =>
    obtain ⟨-, rfl, rfl⟩ := step?_stop h
    exact Or.inr State.aside_signal
  | stopReturns p =>
    obtain ⟨-, rfl, rfl⟩ := step?_stopReturns h
    exact Or.inr State.aside_logged
  | release p =>
    obtain ⟨-, rfl, rfl⟩ := step?_release h
    exact Or.inr State.aside_signal
  | abandon c =>
    obtain ⟨rfl, rfl⟩ := step?_abandon h
    exact Or.inr State.aside_abandon

/-! ## Runs -/

theorem Run.append (h : Run x l y) (h' : Run y r z) : Run x (l ++ r) z := by
  induction h with
  | nil => exact h'
  | cons step _ ih => exact .cons step (ih h')

theorem Run.singleton (h : x.step? d = some (y, effects)) : Run x [(d, effects)] y := .cons h .nil

/-- What holds at the start and is kept by every deed holds at the end. -/
theorem Run.induction {P : List (Deed × List Effect) → Company → Prop} (h : Run x l z) (start : P [] x)
    (step : ∀ {l y d z effects}, Run x l y → P l y → y.step? d = some (z, effects) →
      P (l ++ [(d, effects)]) z) :
    P l z := by
  suffices ∀ {pre rest : List (Deed × List Effect)} {y : Company}, Run x pre y → P pre y → Run y rest z →
      P (pre ++ rest) z from this .nil start h
  intro pre rest y hpre hP hrest
  induction rest generalizing pre y with
  | nil => cases hrest; simpa using hP
  | cons d rest ih =>
    cases hrest with
    | cons hstep hrest =>
      have := ih (hpre.append (.singleton hstep)) (step hpre hP hstep) hrest
      simpa using this

/-- Somewhere in a run from `x` a deed leads from one state to another so that `P` holds of them. -/
def Sometime (P : Company → Deed → Company → Prop) (x : Company) (trace : List (Deed × List Effect)) : Prop :=
  ∃ l d effects r a b, trace = l ++ (d, effects) :: r ∧ Run x l a ∧ a.step? d = some (b, effects) ∧ P a d b

theorem Sometime.append {P : Company → Deed → Company → Prop} (h : Sometime P x l) : Sometime P x (l ++ r) := by
  obtain ⟨l₁, d, effects, l₂, a, b, rfl, hpre, hstep, hP⟩ := h
  exact ⟨l₁, d, effects, l₂ ++ r, a, b, by simp, hpre, hstep, hP⟩

/-- The client is in order, and the pollers that others have started are there. -/
structure Orderly (x : Company) : Prop where
  client : x.client.Orderly
  present : ∀ {p}, p ∈ x.kept ∨ p ∈ x.awaited → ∃ phase, x.client.pollerPhase? p = some phase

theorem orderly_initial : (initial config table).Orderly where
  client := State.orderly_initial
  present {p} hp := by
    rcases hp with hp | hp
    · cases hp
    · cases hp

/-- A poller that is there stays there. -/
theorem exists_pollerPhase (h : x.step? d = some (y, effects))
    (hp : ∃ phase, x.client.pollerPhase? p = some phase) : ∃ phase, y.client.pollerPhase? p = some phase := by
  obtain ⟨e, -, step⟩ | aside := step?_cases h
  · exact (State.Step.of_step? step).exists_pollerPhase hp
  · obtain ⟨phase, hp⟩ := hp
    exact ⟨phase, aside.pollerPhase? hp⟩

theorem Orderly.step (inv : x.Orderly) (h : x.step? d = some (y, effects)) : y.Orderly := by
  have hpresent : ∀ {p}, p ∈ x.kept ∨ p ∈ x.awaited → ∃ phase, y.client.pollerPhase? p = some phase :=
    fun hp => exists_pollerPhase h (inv.present hp)
  cases d with
  | own e =>
    obtain ⟨step, hkept, hawaited⟩ := step?_own.1 h
    refine ⟨(State.Step.of_step? step).orderly inv.client, ?_⟩
    rw [hkept, hawaited]
    exact hpresent
  | spawn =>
    cases h
    refine ⟨inv.client.spawn, fun {p} hp => ?_⟩
    by_cases heq : p = x.client.pollers.length
    · exact ⟨.spawned, State.pollerPhase?_spawn.trans (if_pos heq)⟩
    · exact hpresent (hp.imp_left fun hp => (List.mem_cons.1 hp).resolve_left heq)
  | stop q =>
    obtain ⟨hq, rfl, -⟩ := step?_stop h
    refine ⟨inv.client.signal, ?_⟩
    rintro p (hp | hp)
    · exact hpresent (Or.inl (List.mem_of_mem_erase hp))
    · obtain rfl | hp := List.mem_cons.1 hp
      · exact hpresent (Or.inl hq)
      · exact hpresent (Or.inr hp)
  | stopReturns q =>
    obtain ⟨-, rfl, -⟩ := step?_stopReturns h
    exact ⟨inv.client, fun hp => hpresent (hp.imp_right List.mem_of_mem_erase)⟩
  | release q =>
    obtain ⟨-, rfl, -⟩ := step?_release h
    exact ⟨inv.client.signal, fun hp => hpresent (hp.imp List.mem_of_mem_erase List.mem_of_mem_erase)⟩
  | abandon c =>
    obtain ⟨rfl, -⟩ := step?_abandon h
    exact ⟨inv.client.abandon, hpresent⟩

theorem Run.orderly (h : Run (initial config table) trace x) : x.Orderly :=
  h.induction (P := fun _ x => x.Orderly) orderly_initial fun _ inv step => inv.step step

/-! ## Pollers on the loose -/

/-- A deed after which a poller may run that is neither in the slot nor waited for. -/
def Loosens (x : Company) : Deed → Company → Prop
  | .spawn, _ => True
  | .abandon c, _ => ∃ r p, x.client.call? c = some ⟨r, .stopping p⟩
  | _, _ => False

/-- Nobody has a poller of their own, and the one in the slot is the only one. -/
structure Lone (x : Company) : Prop where
  exclusive : x.client.Exclusive
  unsignalled : x.client.SlotUnsignalled
  kept : x.kept = []
  awaited : x.awaited = []

theorem Lone.step (inv : x.Lone) (orderly : x.Orderly) (h : x.step? d = some (y, effects)) :
    x.Loosens d y ∨ y.Lone := by
  cases d with
  | own e =>
    obtain ⟨step, hkept, hawaited⟩ := step?_own.1 h
    have step := State.Step.of_step? step
    exact Or.inr ⟨step.exclusive inv.exclusive orderly.client inv.unsignalled,
      step.slotUnsignalled inv.unsignalled, hkept.trans inv.kept, hawaited.trans inv.awaited⟩
  | spawn => exact Or.inl trivial
  | stop q | stopReturns q | release q =>
    rw [step?, inv.kept, inv.awaited] at h
    simp at h
  | abandon c =>
    by_cases hc : ∃ r p, x.client.call? c = some ⟨r, .stopping p⟩
    · exact Or.inl hc
    · obtain ⟨rfl, -⟩ := step?_abandon h
      exact Or.inr ⟨inv.exclusive.abandon fun r p hcall => hc ⟨r, p, hcall⟩, inv.unsignalled, inv.kept,
        inv.awaited⟩

/-- The run that takes the given deeds, if each can happen where it stands. -/
def follow? (x : Company) : List Deed → Option (List (Deed × List Effect) × Company)
  | [] => some ([], x)
  | d :: deeds =>
    match x.step? d with
    | some (y, effects) => (y.follow? deeds).map fun (trace, z) => ((d, effects) :: trace, z)
    | none => none

theorem Run.of_follow? {deeds : List Deed} (h : x.follow? deeds = some (trace, z)) : Run x trace z := by
  induction deeds generalizing x trace with
  | nil =>
    obtain ⟨rfl, rfl⟩ := Prod.mk.inj (Option.some.inj h)
    exact .nil
  | cons d deeds ih =>
    simp only [follow?] at h
    split at h
    · rename_i y effects hstep
      obtain ⟨⟨rest, z'⟩, hrest, heq⟩ := Option.map_eq_some_iff.1 h
      obtain ⟨rfl, rfl⟩ := Prod.mk.inj heq
      exact .cons hstep (ih hrest)
    · cases h

end Company

end AdminConsole.Client
