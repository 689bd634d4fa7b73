import AdminConsole.Proofs.Client.Enabled
import AdminConsole.Proofs.Client.Retirement
import Mathlib.Data.List.Induction

/-!
# The pace of a poller

Counted from the moment at which it first ran, a poller begins no more checks than whole periods have passed,
and it begins a check only when the one before has ended (`checks_paced`). A check may take longer than a
period, and the poller may be late for its ticks. Neither is made up for: the next tick is always due a whole
number of periods after that first moment, later than the one before (`exists_eq_of_nextTick?`), so that by the
number of checks the due times run ahead (`Keeps`).
-/

namespace AdminConsole.Client

/-! ## When checks begin and end -/

/-- The moments of a run at which something happens, in order. -/
def times (happens : State → Event → Bool) (s : State) : Trace → List Nat
  | [] => []
  | (e, _) :: rest =>
    match s.step? e with
    | some (t, _) => (if happens s e then [s.now] else []) ++ times happens t rest
    | none => []

/-- When the tick of a waiting poller after the one that happens now is due. -/
def State.nextTickOf? (s : State) (p : Nat) : Option Nat :=
  match s.pollerPhase? p with
  | some (.waiting due) => nextTick? s.config.pollInterval due s.now
  | _ => none

/-- A tick of the poller that has another after it and finds the session held begins a check. -/
def State.beginsCheck (p : Nat) (s : State) (e : Event) : Bool :=
  e == .tick p && ((s.nextTickOf? p).isSome && s.references != 0)

/-- A check of the poller ends when it returns a status. -/
def State.endsCheck (p : Nat) (s : State) (e : Event) : Bool :=
  e == .proceed (.poller p) && (s.checkResult? (.poller p)).isSome

/-- The moments of a run at which the poller begins its checks. -/
def checksBegun (p : Nat) (s : State) (trace : Trace) : List Nat := times (State.beginsCheck p) s trace

/-- The moments of a run at which the poller's checks end. -/
def checksEnded (p : Nat) (s : State) (trace : Trace) : List Nat := times (State.endsCheck p) s trace

/-- The moments at which a poller has begun its checks and has ended them, counted from zero, go with the moment
at which it first ran. -/
structure Paced (period first : Nat) (begun ended : List Nat) : Prop where
  /-- A check begins only when the one before has ended. -/
  apart : ∀ {n y : Nat}, begun[n + 1]? = some y → ∃ z : Nat, ended[n]? = some z ∧ z ≤ y
  /-- Only what has begun ends. -/
  lasts : ∀ {n z : Nat}, ended[n]? = some z → ∃ x : Nat, begun[n]? = some x ∧ x ≤ z
  notBefore : ∀ {n x : Nat}, begun[n]? = some x → first + (n + 1) * period ≤ x

/-- A phase of a poller that first ran at `first`, by the numbers of the checks that it has begun and ended and
of the requests that it has made. The next tick is due at least one period later than one for each check would
be. -/
inductive Keeps (period first begun ended asks : Nat) : PollerPhase → Prop where
  | waiting {k : Nat} (ahead : begun < k) (even : ended = begun) (few : asks ≤ begun) :
    Keeps period first begun ended asks (.waiting (first + k * period))
  | opening {k : Nat} (ahead : begun < k) (odd : begun = ended + 1) (few : asks < begun) :
    Keeps period first begun ended asks (.checking (first + k * period) .opening)
  | underWay {k : Nat} {phase : CheckPhase} (opened : phase ≠ .opening) (ahead : begun < k)
      (odd : begun = ended + 1) (few : asks ≤ begun) :
    Keeps period first begun ended asks (.checking (first + k * period) phase)
  | finished (few : asks ≤ begun) : Keeps period first begun ended asks .finished

/-- How a poller that first ran at `first` stands, with its checks so far. -/
structure State.OnPace (s : State) (p first : Nat) (begun ended : List Nat) (asks : Nat) : Prop where
  keeps : ∃ phase, s.pollerPhase? p = some phase ∧
    Keeps s.config.pollInterval.nanoseconds first begun.length ended.length asks phase
  paced : Paced s.config.pollInterval.nanoseconds first begun ended
  past : ∀ x ∈ begun ++ ended, x ≤ s.now

/-- How a poller that first ran at `first` stands after a run that began in `x`, with what the trace says of its
checks and requests. -/
def KeepsPace (p first : Nat) (x : State) (trace : Trace) (s : State) : Prop :=
  s.OnPace p first (checksBegun p x trace) (checksEnded p x trace) (asksOf (.poller p) trace).length

variable {s t u x : State} {e : Event} {effects : List Effect} {p first now asks : Nat} {l r : Trace}
  {begun ended : List Nat} {happens : State → Event → Bool}

/-! ## Moments of a run -/

theorem times_append (h : Run s l t) : times happens s (l ++ r) = times happens s l ++ times happens t r := by
  induction h with
  | nil => rfl
  | cons step _ ih => simp only [List.cons_append, times, step, ih, List.append_assoc]

theorem times_step (h : Run s l t) (step : t.step? e = some (u, effects)) :
    times happens s (l ++ [(e, effects)]) = times happens s l ++ if happens t e then [t.now] else [] := by
  rw [times_append h]
  simp only [times, step, List.append_nil]

theorem checksBegun_step (h : Run s l t) (step : t.step? e = some (u, effects)) :
    checksBegun p s (l ++ [(e, effects)]) =
      checksBegun p s l ++ if t.beginsCheck p e then [t.now] else [] := times_step h step

theorem checksEnded_step (h : Run s l t) (step : t.step? e = some (u, effects)) :
    checksEnded p s (l ++ [(e, effects)]) =
      checksEnded p s l ++ if t.endsCheck p e then [t.now] else [] := times_step h step

theorem beginsCheck_of_ne_actor (h : e.actor? ≠ some (.poller p)) : s.beginsCheck p e = false := by
  refine Bool.eq_false_iff.2 fun hbegins => h ?_
  obtain ⟨hevent, -⟩ := Bool.and_eq_true_iff.1 hbegins
  rw [eq_of_beq hevent]
  rfl

theorem endsCheck_of_ne_actor (h : e.actor? ≠ some (.poller p)) : s.endsCheck p e = false := by
  refine Bool.eq_false_iff.2 fun hends => h ?_
  obtain ⟨hevent, -⟩ := Bool.and_eq_true_iff.1 hends
  rw [eq_of_beq hevent]
  rfl

/-! ## Due times -/

/-- A tick that is not early is followed by one that is due whole periods after it, one at least. -/
theorem exists_eq_of_nextTick? {period : Period} {due next : Nat} (h : due ≤ now)
    (hnext : nextTick? period due now = some next) :
    ∃ k, 0 < k ∧ next = due + k * period.nanoseconds := by
  unfold nextTick? at hnext
  split at hnext
  · exact ⟨1, Nat.one_pos, by rw [Nat.one_mul]; exact (Option.some.inj hnext).symm⟩
  split at hnext
  · obtain ⟨first, hfirst, rfl⟩ := Option.map_eq_some_iff.1 hnext
    obtain ⟨-, rfl⟩ := firstTick?_eq_some_iff.1 hfirst
    refine ⟨(now - due) / period.nanoseconds + 1, Nat.succ_pos _, ?_⟩
    have hlt : (now - due) % period.nanoseconds < period.nanoseconds := Nat.mod_lt _ period.positive
    have hdiv := Nat.div_add_mod' (now - due) period.nanoseconds
    rw [Nat.succ_mul]
    omega
  · cases hnext

/-! ## Lists of moments -/

section
variable {period n x : Nat}

theorem getElem?_append_of_some (h : begun[n]? = some x) : (begun ++ ended)[n]? = some x := by
  rwa [List.getElem?_append_left (List.getElem?_eq_some_iff.1 h).1]

theorem of_getElem?_concat (h : (begun ++ [now])[n]? = some x) :
    begun[n]? = some x ∨ n = begun.length ∧ now = x := by
  rcases Nat.lt_trichotomy n begun.length with hlt | rfl | hgt
  · rw [List.getElem?_append_left hlt] at h
    exact Or.inl h
  · rw [List.getElem?_concat_length] at h
    exact Or.inr ⟨rfl, Option.some.inj h⟩
  · rw [List.getElem?_eq_none (by simp; omega)] at h
    cases h

/-- Checks that begin no earlier than their periods allow are no more than the periods that have passed. -/
theorem countP_le_div (hperiod : 0 < period)
    (h : ∀ n x, begun[n]? = some x → first + (n + 1) * period ≤ x) (time : Nat) :
    begun.countP (· ≤ time) ≤ (time - first) / period := by
  induction begun using List.reverseRecOn with
  | nil => exact Nat.zero_le _
  | append_singleton begun x ih =>
    rw [List.countP_append, List.countP_singleton]
    split
    · -- All checks before this one count at most, and this one has its own period.
      rename_i hx
      have hlast := h begun.length x List.getElem?_concat_length
      have hle : x ≤ time := of_decide_eq_true hx
      have hcount : begun.countP (· ≤ time) + 1 ≤ begun.length + 1 := Nat.succ_le_succ List.countP_le_length
      rw [Nat.le_div_iff_mul_le hperiod]
      have hmul := Nat.mul_le_mul_right period hcount
      omega
    · exact ih fun n y hy => h n y (getElem?_append_of_some hy)

theorem paced_nil : Paced period first [] [] := ⟨nofun, nofun, nofun⟩

/-- A check may begin when all that have begun have ended, and its own period is over. -/
theorem Paced.begun_concat (h : Paced period first begun ended) (even : ended.length = begun.length)
    (past : ∀ z ∈ ended, z ≤ now) (due : first + (begun.length + 1) * period ≤ now) :
    Paced period first (begun ++ [now]) ended where
  apart {n y} hy := by
    rcases of_getElem?_concat hy with hy | ⟨hlast, rfl⟩
    · exact h.apart hy
    · have hn : n < ended.length := by omega
      exact ⟨ended[n], List.getElem?_eq_getElem hn, past _ (List.getElem_mem hn)⟩
  lasts hz := by
    obtain ⟨x, hx, hle⟩ := h.lasts hz
    exact ⟨x, getElem?_append_of_some hx, hle⟩
  notBefore hx := by
    rcases of_getElem?_concat hx with hx | ⟨rfl, rfl⟩
    · exact h.notBefore hx
    · exact due

/-- The check that has begun last may end. -/
theorem Paced.ended_concat (h : Paced period first begun ended) (odd : begun.length = ended.length + 1)
    (past : ∀ x ∈ begun, x ≤ now) : Paced period first begun (ended ++ [now]) where
  apart hy := by
    obtain ⟨z, hz, hle⟩ := h.apart hy
    exact ⟨z, getElem?_append_of_some hz, hle⟩
  lasts {n z} hz := by
    rcases of_getElem?_concat hz with hz | ⟨hlast, rfl⟩
    · exact h.lasts hz
    · have hn : n < begun.length := by omega
      exact ⟨begun[n], List.getElem?_eq_getElem hn, past _ (List.getElem_mem hn)⟩
  notBefore := h.notBefore

/-- One moment may bring a beginning, or an end, or neither. -/
theorem Paced.advance (h : Paced period first begun ended) (past : ∀ x ∈ begun ++ ended, x ≤ now)
    {begins ends : Bool}
    (hbegins : begins = true → ended.length = begun.length ∧ first + (begun.length + 1) * period ≤ now)
    (hends : ends = true → begun.length = ended.length + 1) :
    Paced period first (begun ++ if begins then [now] else []) (ended ++ if ends then [now] else []) := by
  cases begins with
  | true =>
    obtain ⟨even, due⟩ := hbegins rfl
    cases ends with
    | true => exact absurd (hends rfl) (by omega)
    | false => simpa using h.begun_concat even (fun z hz => past z (List.mem_append_right _ hz)) due
  | false =>
    cases ends with
    | true => simpa using h.ended_concat (hends rfl) fun x hx => past x (List.mem_append_left _ hx)
    | false => simpa using h

end

/-! ## The steps of a poller -/

section
variable {period begun ended : Nat} {phase phase' : PollerPhase} {asked : List Ask}

/-- A check that begins finds the checks before it at their end, and its own period over. -/
theorem Keeps.of_begins (h : Keeps period first begun ended asks phase) (hphase : s.pollerPhase? p = some phase)
    (step : s.step? e = some (t, effects)) (begins : s.beginsCheck p e = true) :
    ended = begun ∧ first + (begun + 1) * period ≤ s.now := by
  obtain ⟨hevent, -⟩ := Bool.and_eq_true_iff.1 begins
  cases eq_of_beq hevent
  obtain ⟨_, phase', _, hs, -, -, move⟩ := (State.Step.of_step? step).pollerStep rfl
  cases hs.symm.trans hphase
  have hwaiting : ∀ {next}, phase = .waiting next → next ≤ s.now →
      ended = begun ∧ first + (begun + 1) * period ≤ s.now := by
    rintro next rfl due
    cases h with
    | waiting ahead even =>
      exact ⟨even, Nat.le_trans (Nat.add_le_add_left (Nat.mul_le_mul_right _ ahead) _) due⟩
  cases move with
  | tick isDue | abandon isDue | tickFails isDue => exact hwaiting rfl isDue
  | hears heard => cases heard

/-- A check that ends is the one that has begun and not ended. -/
theorem Keeps.of_ends (h : Keeps period first begun ended asks phase) (hphase : s.pollerPhase? p = some phase)
    (ends : s.endsCheck p e = true) : begun = ended + 1 := by
  obtain ⟨-, hsome⟩ := Bool.and_eq_true_iff.1 ends
  cases h with
  | opening _ odd | underWay _ _ odd => exact odd
  | waiting | finished =>
    rw [State.checkResult?, State.checkPhase?_poller_eq_none hphase nofun] at hsome
    cases hsome

/-- A step of a poller counts the check that it begins or ends and what it asks. -/
theorem State.PollerStep.keeps (step : s.PollerStep p e phase phase' asked)
    (hphase : s.pollerPhase? p = some phase)
    (h : Keeps s.config.pollInterval.nanoseconds first begun ended asks phase) :
    Keeps s.config.pollInterval.nanoseconds first (begun + (s.beginsCheck p e).toNat)
      (ended + (s.endsCheck p e).toNat) (asks + asked.length) phase' := by
  cases step with
  | settle | settleFails => cases h
  | tick isDue held later =>
    have hbegins : s.beginsCheck p (.tick p) = true := by
      simp [beginsCheck, nextTickOf?, hphase, later, held]
    cases h with
    | @waiting k ahead even few =>
      -- One more check, and the next tick is due one period later at least.
      obtain ⟨k', hk', rfl⟩ := exists_eq_of_nextTick? isDue later
      rw [Nat.add_assoc, ← Nat.add_mul, hbegins]
      exact .opening (Nat.add_lt_add_of_lt_of_le ahead hk') (congrArg Nat.succ even.symm) (Nat.lt_succ_of_le few)
  | abandon isDue free =>
    have hbegins : s.beginsCheck p (.tick p) = false := by simp [beginsCheck, free]
    cases h with
    | waiting ahead even few => exact hbegins ▸ .finished few
  | tickFails isDue none =>
    have hbegins : s.beginsCheck p (.tick p) = false := by simp [beginsCheck, nextTickOf?, hphase, none]
    cases h with
    | waiting ahead even few => exact hbegins ▸ .finished few
  | shutdown =>
    cases h with
    | waiting ahead even few => exact .finished few
  | findsNone dead =>
    cases h with
    | opening ahead odd few => exact .finished (Nat.le_of_lt few)
    | underWay opened => exact absurd rfl opened
  | checks alive =>
    have halive : s.session.isAlive = true := by
      refine Bool.not_eq_false _ ▸ fun hdead => ?_
      cases alive.symm.trans (loginOf?_eq_none_iff.2 hdead)
    have hends : s.endsCheck p (.proceed (.poller p)) = false := by
      simp [endsCheck, checkResult?, checkPhase?_poller_of_checking hphase, halive]
    cases h with
    | opening ahead odd few => exact hends ▸ .underWay nofun ahead odd few
    | underWay opened => exact absurd rfl opened
  | hears heard =>
    have hne : s.beginsCheck p e = false ∧ s.endsCheck p e = false := by
      cases e with
      | answer | timeout => exact ⟨rfl, rfl⟩
      | _ => cases heard
    cases h with
    | underWay opened ahead odd few =>
      rw [hne.1, hne.2]
      exact .underWay nofun ahead odd few
  | goesOn alive =>
    have hends : s.endsCheck p (.proceed (.poller p)) = true := by
      simp [endsCheck, checkResult?, checkPhase?_poller_of_checking hphase]
    cases h with
    | underWay opened ahead odd few => exact hends ▸ .waiting ahead odd.symm few
  | ends dead =>
    cases h with
    | underWay opened ahead odd few => exact .finished few

end

/-! ## A whole run -/

/-- A step keeps the pace. But for the time, only the poller's own steps matter to it. -/
theorem State.Step.onPace (step : s.step? e = some (t, effects)) (h : s.OnPace p first begun ended asks) :
    t.OnPace p first (begun ++ if s.beginsCheck p e then [s.now] else [])
      (ended ++ if s.endsCheck p e then [s.now] else []) (asks + (asksIn (.poller p) effects).length) := by
  have hstep := State.Step.of_step? step
  obtain ⟨phase, hphase, keeps⟩ := h.keeps
  have hlength : ∀ b : Bool, (if b then [s.now] else []).length = b.toNat := by
    rintro (_ | _) <;> rfl
  refine ⟨?_, ?_, fun x hx => ?_⟩
  · rw [List.length_append, List.length_append, hlength, hlength, hstep.config]
    by_cases hother : e.actor? ≠ some (.poller p)
    · rw [beginsCheck_of_ne_actor hother, endsCheck_of_ne_actor hother, hstep.asksIn_of_ne_actor hother]
      exact ⟨phase, hstep.pollerPhase?_of_ne_actor hother hphase, keeps⟩
    · obtain ⟨_, phase', _, hs, ht, rfl, move⟩ := hstep.pollerStep (Decidable.not_not.1 hother)
      cases hs.symm.trans hphase
      exact ⟨phase', ht, move.keeps hphase keeps⟩
  · rw [hstep.config]
    exact h.paced.advance h.past (keeps.of_begins hphase step) (keeps.of_ends hphase)
  · have hold : x ∈ begun ++ ended ∨ x = s.now := by
      simp only [List.mem_append, List.mem_ite_nil_right, List.mem_singleton] at hx ⊢
      tauto
    rcases hold with hold | rfl
    · exact Nat.le_trans (h.past x hold) hstep.now_le
    · exact hstep.now_le

theorem KeepsPace.concat (on : KeepsPace p first x l s) (h : Run x l s) (step : s.step? e = some (t, effects)) :
    KeepsPace p first x (l ++ [(e, effects)]) t := by
  rw [KeepsPace, checksBegun_step h step, checksEnded_step h step, asksOf_append, asksOf_singleton,
    List.length_append]
  exact State.Step.onPace step on

section
variable {config : Config} {table : Navigation.Table}

/-- Until a poller first runs it begins no check and asks nothing. -/
theorem Run.unrun (h : Run (.initial config table) l s) (unrun : ∀ x ∈ l, x.1 ≠ .proceed (.poller p)) :
    (s.pollerPhase? p = none ∨ s.pollerPhase? p = some .spawned) ∧
      checksBegun p (.initial config table) l = [] ∧ checksEnded p (.initial config table) l = [] ∧
      asksOf (.poller p) l = [] := by
  refine h.induction (P := fun l s => (∀ x ∈ l, x.1 ≠ .proceed (.poller p)) →
    (s.pollerPhase? p = none ∨ s.pollerPhase? p = some .spawned) ∧
      checksBegun p (.initial config table) l = [] ∧ checksEnded p (.initial config table) l = [] ∧
      asksOf (.poller p) l = []) (fun _ => ⟨Or.inl rfl, rfl, rfl, rfl⟩) ?_ unrun
  intro l s e t effects hl ih step unrun
  obtain ⟨hphase, hbegun, hended, hasks⟩ := ih fun x hx => unrun x (List.mem_append_left _ hx)
  have hstep := State.Step.of_step? step
  by_cases hother : e.actor? ≠ some (.poller p)
  · rw [checksBegun_step hl step, checksEnded_step hl step, asksOf_append, asksOf_singleton, hbegun, hended,
      hasks, beginsCheck_of_ne_actor hother, endsCheck_of_ne_actor hother, hstep.asksIn_of_ne_actor hother]
    refine ⟨?_, rfl, rfl, rfl⟩
    rcases hphase with hphase | hphase
    · exact (hstep.pollerPhase?_of_none hphase).imp_right And.left
    · exact Or.inr (hstep.pollerPhase?_of_ne_actor hother hphase)
  · obtain ⟨phase, _, _, hs, -, -, move⟩ := hstep.pollerStep (Decidable.not_not.1 hother)
    rcases hphase with hphase | hphase
    · cases hphase.symm.trans hs
    · cases hphase.symm.trans hs
      cases move with
      | settle | settleFails => exact absurd rfl (unrun (.proceed (.poller p), effects) (by simp))

/-- A poller that runs for the first time sets its first tick, if it has one. -/
theorem Run.keepsPace_first (h : Run (.initial config table) l s)
    (unrun : ∀ x ∈ l, x.1 ≠ .proceed (.poller p)) (runs : s.step? (.proceed (.poller p)) = some (t, effects)) :
    KeepsPace p s.now (.initial config table) (l ++ [(.proceed (.poller p), effects)]) t := by
  obtain ⟨hphase, hbegun, hended, hasks⟩ := h.unrun unrun
  obtain ⟨phase, phase', _, hs, ht, hnone, move⟩ := (State.Step.of_step? runs).pollerStep rfl
  rcases hphase with hphase | hphase
  · cases hphase.symm.trans hs
  cases hphase.symm.trans hs
  have hends : s.endsCheck p (.proceed (.poller p)) = false := by
    simp [State.endsCheck, State.checkResult?, State.checkPhase?_poller_eq_none hs nofun]
  have hbegins : s.beginsCheck p (.proceed (.poller p)) = false := rfl
  have hkeeps : Keeps s.config.pollInterval.nanoseconds s.now 0 0 0 phase' ∧
      asksIn (.poller p) effects = [] := by
    cases move with
    | settle first =>
      obtain ⟨-, rfl⟩ := firstTick?_eq_some_iff.1 first
      have hfirst : Keeps s.config.pollInterval.nanoseconds s.now 0 0 0
          (.waiting (s.now + 1 * s.config.pollInterval.nanoseconds)) :=
        .waiting Nat.one_pos rfl (Nat.le_refl 0)
      rw [Nat.one_mul] at hfirst
      exact ⟨hfirst, hnone⟩
    | settleFails => exact ⟨.finished (Nat.le_refl 0), hnone⟩
  rw [KeepsPace, checksBegun_step h runs, checksEnded_step h runs, asksOf_append, asksOf_singleton, hbegun,
    hended, hasks, hkeeps.2, hbegins, hends]
  refine ⟨⟨_, ht, ?_⟩, paced_nil, nofun⟩
  rw [(State.Step.of_step? runs).config]
  exact hkeeps.1

/-- From its first run on a poller keeps the pace. -/
theorem Run.keepsPace (h : Run (.initial config table) l s) (unrun : ∀ x ∈ l, x.1 ≠ .proceed (.poller p))
    (runs : s.step? (.proceed (.poller p)) = some (t, effects)) (later : Run t r u) :
    KeepsPace p s.now (.initial config table) (l ++ (.proceed (.poller p), effects) :: r) u := by
  have h' := h.append (.singleton runs)
  rw [List.append_cons]
  refine later.induction (P := fun r u => KeepsPace p s.now (.initial config table)
    (l ++ [(.proceed (.poller p), effects)] ++ r) u) ?_ ?_
  · rw [List.append_nil]
    exact h.keepsPace_first unrun runs
  · intro r a e b effects' hr on step
    rw [← List.append_assoc]
    exact on.concat (h'.append hr) step

/-- The checks of a poller do not overlap. Counted from the moment at which the poller first ran, the first
begins no earlier than after one period, the next no earlier than after two, and so on, so that at no time more
have begun than whole periods have passed. The poller asks the provider once for each check at most. -/
theorem checks_paced {pre trace : Trace} (h : Run (.initial config table) pre s)
    (unrun : ∀ x ∈ pre, x.1 ≠ .proceed (.poller p))
    (runs : s.step? (.proceed (.poller p)) = some (t, effects)) (later : Run t trace u) :
    ∃ begun ended,
      checksBegun p (.initial config table) (pre ++ (.proceed (.poller p), effects) :: trace) = begun ∧
      checksEnded p (.initial config table) (pre ++ (.proceed (.poller p), effects) :: trace) = ended ∧
      Paced config.pollInterval.nanoseconds s.now begun ended ∧
      (∀ time, begun.countP (· ≤ time) ≤ (time - s.now) / config.pollInterval.nanoseconds) ∧
      (asksOf (.poller p) (pre ++ (.proceed (.poller p), effects) :: trace)).length ≤ begun.length := by
  obtain ⟨⟨phase, -, keeps⟩, paced, -⟩ := h.keepsPace unrun runs later
  have hconfig := (h.append (.cons runs later)).config_eq
  rw [hconfig] at keeps paced
  refine ⟨_, _, rfl, rfl, paced, countP_le_div config.pollInterval.positive fun n x hx => paced.notBefore hx, ?_⟩
  cases keeps with
  | waiting _ _ few | underWay _ _ _ few | finished few => exact few
  | opening _ _ few => exact Nat.le_of_lt few

/-- A check that outlasts its period by far: four periods of 30 s have passed when the second one begins. -/
def slowCheck : List Event :=
  [.elapse 30000000000, .tick 0, .proceed (.poller 0), .elapse 9000000000,
    .answer (.poller 0) (.status .alive), .elapse 85000000000, .proceed (.poller 0), .tick 0,
    .proceed (.poller 0)]

theorem checks_paced_slowCheck :
    ∃ pre s t effects trace u, Run (.initial .standard .mainTabs) pre s ∧
      pre.map Prod.fst = undisturbedLogin ∧ s.now = 0 ∧
      s.step? (.proceed (.poller 0)) = some (t, effects) ∧ Run t trace u ∧ trace.map Prod.fst = slowCheck ∧
      Paced 30000000000 0 [30000000000, 124000000000] [124000000000] ∧
      [30000000000, 124000000000].countP (· ≤ u.now) ≤ u.now / 30000000000 ∧
      (asksOf (.poller 0) (pre ++ (.proceed (.poller 0), effects) :: trace)).length ≤ 2 := by
  have hrun : ∃ x t effects y, (State.initial .standard .mainTabs).follow? undisturbedLogin = some x ∧
      x.1.map Prod.fst = undisturbedLogin ∧ x.2.now = 0 ∧
      x.2.step? (.proceed (.poller 0)) = some (t, effects) ∧ t.follow? slowCheck = some y ∧
      y.1.map Prod.fst = slowCheck ∧
      checksBegun 0 (.initial .standard .mainTabs) (x.1 ++ (.proceed (.poller 0), effects) :: y.1) =
        [30000000000, 124000000000] ∧
      checksEnded 0 (.initial .standard .mainTabs) (x.1 ++ (.proceed (.poller 0), effects) :: y.1) =
        [124000000000] := ⟨_, _, _, _, rfl, rfl, rfl, rfl, rfl, rfl, rfl, rfl⟩
  obtain ⟨⟨pre, s⟩, t, effects, ⟨trace, u⟩, hpre, hevents, hnow, runs, htrace, hevents', hbegun, hended⟩ :=
    hrun
  have h := Run.of_follow? hpre
  have later := Run.of_follow? htrace
  have unrun : ∀ x ∈ pre, x.1 ≠ .proceed (.poller 0) := by
    intro x hx hproceed
    have hmem := List.mem_map_of_mem (f := Prod.fst) hx
    rw [hevents, hproceed] at hmem
    exact absurd hmem (by decide)
  obtain ⟨begun, ended, hbegun', hended', paced, few, asks⟩ := checks_paced h unrun runs later
  cases hbegun.symm.trans hbegun'
  cases hended.symm.trans hended'
  rw [hnow] at paced few
  exact ⟨pre, s, t, effects, trace, u, h, hevents, hnow, runs, later, hevents', paced, few u.now, asks⟩

end

end AdminConsole.Client
