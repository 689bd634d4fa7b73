import AdminConsole.Proofs.Client.Watch

/-!
# The slot and its line

How the slot, the line before it and the calls hang together: the slot is kept by the login or the
refresh that waits for the poller it has taken out, and by nobody else; the calls in line are those
that wait for their turn; and whoever is waited for was told to stop. `Orderly` says so, and every
step keeps it.
-/

namespace AdminConsole.Client

/-- A call in such a phase waits for its turn at the slot or for a poller that was in it. -/
def CallPhase.atSlot : CallPhase → Bool
  | .queued | .stopping _ => true
  | _ => false

namespace State

variable {s t : State} {e : Event} {effects : List Effect} {c d p q : Nat}

/-! ## Who was told to stop -/

theorem exists_phase_of_isSignalled (h : s.isSignalled p = true) :
    ∃ phase, s.pollerPhase? p = some phase := by
  cases hp : s.pollers[p]? with
  | none =>
    rw [isSignalled, hp] at h
    cases h
  | some poller => exact ⟨_, pollerPhase?_of_getElem? hp⟩

theorem isSignalled_signal_self (h : p < s.pollers.length) : (s.signal p).isSignalled p = true := by
  simp [isSignalled, signal, h]

theorem isSignalled_signal_of_ne (h : p ≠ q) : (s.signal p).isSignalled q = s.isSignalled q := by
  simp only [isSignalled, signal, List.getElem?_modify, if_neg h]
  cases s.pollers[q]? <;> rfl

theorem isSignalled_signal (h : s.isSignalled q = true) : (s.signal p).isSignalled q = true := by
  by_cases hpq : p = q
  · subst hpq
    refine isSignalled_signal_self (Nat.lt_of_not_le fun hle => ?_)
    rw [isSignalled, List.getElem?_eq_none hle] at h
    cases h
  · rw [isSignalled_signal_of_ne hpq, h]

theorem isSignalled_letGo (h : s.isSignalled q = true) : s.letGo.1.isSignalled q = true := by
  obtain heq | ⟨-, p, -, heq⟩ := letGo_cases (s := s) <;> rw [heq]
  · exact h
  · exact isSignalled_signal (s := { s with slot := _ }) h

/-- The poller that is put in charge was not told to stop. -/
@[simp] theorem isSignalled_install : (s.install c).1.isSignalled q = s.isSignalled q := by
  show Option.any Poller.signalled (s.pollers ++ [Poller.fresh])[q]? = _
  rw [List.getElem?_append]
  split
  · rfl
  · rename_i hge
    rw [isSignalled, List.getElem?_eq_none (Nat.le_of_not_lt hge)]
    cases h : [Poller.fresh][q - s.pollers.length]? with
    | none => rfl
    | some poller =>
      rw [List.mem_singleton.1 (List.mem_of_getElem? h)]
      rfl

/-- Nobody takes back that a poller is to stop. -/
theorem Step.isSignalled (h : s.Step e t effects) (hq : s.isSignalled q = true) :
    t.isSignalled q = true := by
  cases h
  case settle | tick | pollerChecks | pollerHears => rw [isSignalled_setPoller]; exact hq
  case pollerGoesOn =>
    refine isSignalled_letGo ?_
    rw [isSignalled_setPoller]
    exact hq
  case settleFails | tickFails | abandon | shutdown | pollerFindsNone | pollerEnds =>
    refine isSignalled_letGo (s := State.setPoller _ _ .finished) ?_
    rw [isSignalled_setPoller]
    exact hq
  case drop => exact isSignalled_letGo (s := { s with handles := _ }) hq
  case install | installStopped => rw [isSignalled_install]; exact hq
  case takeOut | replace => exact isSignalled_signal (s := { s with slot := _ }) hq
  all_goals exact hq

/-! ## The slot after an update -/

@[simp] theorem holder_letGo : s.letGo.1.slot.holder = s.slot.holder :=
  letGo_eq_of (f := fun x => x.slot.holder) fun _ => rfl

@[simp] theorem line_letGo : s.letGo.1.slot.line = s.slot.line :=
  letGo_eq_of (f := fun x => x.slot.line) fun _ => rfl

theorem poller_letGo (h : s.letGo.1.slot.poller = some p) : s.slot.poller = some p := by
  obtain heq | ⟨-, q, -, heq⟩ := letGo_cases (s := s) <;> rw [heq] at h
  · exact h
  · cases h

@[simp] theorem pollers_length_letGo : s.letGo.1.pollers.length = s.pollers.length :=
  letGo_eq_of (f := fun x => x.pollers.length) fun _ => List.length_modify _ _ _

/-! ## The invariant -/

/-- The slot, the line before it and the calls agree. -/
structure Orderly (s : State) : Prop where
  /-- The slot is kept by the login or the refresh that waits for a poller to finish. -/
  holder : ∀ c, s.slot.holder = some c ↔ ∃ r p, s.call? c = some ⟨r, .stopping p⟩ ∧ r ≠ .logout
  /-- While it is kept the slot is empty. -/
  empty : s.slot.holder ≠ none → s.slot.poller = none
  /-- A call waits only for a poller that was told to stop. -/
  signalled : ∀ {c r p}, s.call? c = some ⟨r, .stopping p⟩ → s.isSignalled p = true
  line : ∀ c, c ∈ s.slot.line ↔ ∃ r, s.call? c = some ⟨r, .queued⟩
  nodup : s.slot.line.Nodup
  present : ∀ {p}, s.slot.poller = some p → p < s.pollers.length

theorem orderly_initial {config : Config} {table : Navigation.Table} :
    (initial config table).Orderly := by
  refine ⟨fun c => ⟨nofun, ?_⟩, fun _ => rfl, nofun, fun c => ⟨nofun, ?_⟩, List.nodup_nil, nofun⟩
  · rintro ⟨r, p, hc, -⟩
    cases hc
  · rintro ⟨r, hc⟩
    cases hc

/-! ## Steps that leave the slot to others -/

/-- A state in which the slot has changed hands neither to nor from any call. -/
theorem Orderly.congr (inv : s.Orderly)
    (calls : ∀ {d r phase}, phase.atSlot = true →
      (t.call? d = some ⟨r, phase⟩ ↔ s.call? d = some ⟨r, phase⟩))
    (holder : t.slot.holder = s.slot.holder) (line : t.slot.line = s.slot.line)
    (poller : ∀ {p}, t.slot.poller = some p → s.slot.poller = some p)
    (signalled : ∀ {p}, s.isSignalled p = true → t.isSignalled p = true)
    (length : s.pollers.length ≤ t.pollers.length) : t.Orderly where
  holder c := by
    rw [holder, inv.holder c]
    constructor
    · rintro ⟨r, p, hc, hr⟩
      exact ⟨r, p, (calls rfl).2 hc, hr⟩
    · rintro ⟨r, p, hc, hr⟩
      exact ⟨r, p, (calls rfl).1 hc, hr⟩
  empty hkept := by
    rw [holder] at hkept
    cases hp : t.slot.poller with
    | none => rfl
    | some p => cases (poller hp).symm.trans (inv.empty hkept)
  signalled hc := signalled (inv.signalled ((calls rfl).1 hc))
  line c := by
    rw [line, inv.line c]
    constructor
    · rintro ⟨r, hc⟩
      exact ⟨r, (calls rfl).2 hc⟩
    · rintro ⟨r, hc⟩
      exact ⟨r, (calls rfl).1 hc⟩
  nodup := line ▸ inv.nodup
  present hp := Nat.lt_of_lt_of_le (inv.present (poller hp)) length

/-- A call that has nothing to do with the slot before and after its step leaves the others there. -/
theorem Step.atSlot_iff (h : s.Step e t effects) (hactor : e.actor? = some (.call c))
    (before : ∀ {call}, s.call? c = some call → call.phase.atSlot = false)
    (after : ∀ {call}, t.call? c = some call → call.phase.atSlot = false)
    {r : Request} {phase : CallPhase} (hphase : phase.atSlot = true) :
    t.call? d = some ⟨r, phase⟩ ↔ s.call? d = some ⟨r, phase⟩ := by
  by_cases hd : d = c
  · subst hd
    constructor
    · intro hd
      cases (after hd).symm.trans hphase
    · intro hd
      cases (before hd).symm.trans hphase
  · rw [h.call?_of_ne_actor fun heq => hd (Task.call.inj (Option.some.inj (heq.symm.trans hactor)))]

theorem Orderly.withSession {x : Session} (inv : s.Orderly) : ({ s with session := x } : State).Orderly :=
  inv.congr (fun _ => Iff.rfl) rfl rfl id id (Nat.le_refl _)

theorem Orderly.noteFailed (inv : s.Orderly) : (s.noteFailed p).Orderly :=
  inv.congr (fun _ => Iff.rfl) rfl rfl id id (Nat.le_refl _)

theorem Orderly.setPoller {phase : PollerPhase} (inv : s.Orderly) : (s.setPoller p phase).Orderly := by
  refine inv.congr (fun _ => Iff.rfl) rfl rfl id (fun hq => ?_)
    (Nat.le_of_eq (List.length_modify _ _ _).symm)
  rw [isSignalled_setPoller, hq]

theorem Orderly.letGo (inv : s.Orderly) : s.letGo.1.Orderly :=
  inv.congr (fun _ => by rw [call?_letGo]) holder_letGo line_letGo poller_letGo isSignalled_letGo
    (Nat.le_of_eq pollers_length_letGo.symm)

/-! ## Steps at the slot -/

/-- A call that lines up comes last. -/
theorem Orderly.enqueue {r : Request} {phase : CallPhase} (inv : s.Orderly)
    (call : s.call? c = some ⟨r, phase⟩) (away : phase.atSlot = false) : (s.enqueue c).Orderly := by
  have hself : (s.enqueue c).call? c = some ⟨r, .queued⟩ := call?_setCall_self call
  have hother : ∀ {d}, d ≠ c → (s.enqueue c).call? d = s.call? d := fun hd => call?_setCall_of_ne hd
  have hstops : ∀ {d r p}, (s.enqueue c).call? d = some ⟨r, .stopping p⟩ ↔
      s.call? d = some ⟨r, .stopping p⟩ := by
    intro d r p
    by_cases hd : d = c
    · subst hd
      rw [hself, call]
      constructor
      · intro h
        cases h
      · intro h
        cases h
        cases away
    · rw [hother hd]
  have hnot : c ∉ s.slot.line := by
    intro hmem
    obtain ⟨r', hc⟩ := (inv.line c).1 hmem
    cases call.symm.trans hc
    cases away
  refine ⟨fun d => ?_, inv.empty, fun hd => inv.signalled (hstops.1 hd), fun d => ?_, ?_, inv.present⟩
  · simp only [hstops]
    exact inv.holder d
  · show d ∈ s.slot.line ++ [c] ↔ _
    rw [List.mem_append, List.mem_singleton, inv.line d]
    by_cases hd : d = c
    · subst hd
      exact ⟨fun _ => ⟨r, hself⟩, fun _ => Or.inr rfl⟩
    · simp [hother hd, hd]
  · show (s.slot.line ++ [c]).Nodup
    rw [List.nodup_append]
    refine ⟨inv.nodup, List.pairwise_singleton _ _, fun a ha b hb => ?_⟩
    rw [List.mem_singleton.1 hb]
    rintro rfl
    exact hnot ha

/-- A call that has its turn leaves the line, and keeps the slot only to wait for a poller. -/
theorem Orderly.turn {r : Request} {phase : CallPhase} (inv : s.Orderly) (turn : s.HasTurn c)
    (moved : t.call? c = some ⟨r, phase⟩) (others : ∀ {d}, d ≠ c → t.call? d = s.call? d)
    (line : t.slot.line = s.slot.line.tail) (left : phase ≠ .queued)
    (holder : ∀ d, t.slot.holder = some d ↔ d = c ∧ (∃ p, phase = .stopping p) ∧ r ≠ .logout)
    (empty : t.slot.holder ≠ none → t.slot.poller = none)
    (stops : ∀ {p}, phase = .stopping p → t.isSignalled p = true)
    (signalled : ∀ {p}, s.isSignalled p = true → t.isSignalled p = true)
    (present : ∀ {p}, t.slot.poller = some p → p < t.pollers.length) : t.Orderly := by
  obtain ⟨free, first⟩ := turn
  obtain ⟨rest, hline⟩ : ∃ rest, s.slot.line = c :: rest := List.head?_eq_some_iff.1 first
  have hnodup := inv.nodup
  rw [hline, List.nodup_cons] at hnodup
  refine ⟨fun d => ?_, empty, ?_, fun d => ?_, ?_, present⟩
  · rw [holder d]
    by_cases hd : d = c
    · subst hd
      rw [moved]
      constructor
      · rintro ⟨-, ⟨p, rfl⟩, hr⟩
        exact ⟨r, p, rfl, hr⟩
      · rintro ⟨r', p, heq, hr⟩
        cases heq
        exact ⟨rfl, ⟨p, rfl⟩, hr⟩
    · rw [others hd, ← inv.holder d, free]
      exact ⟨fun h => absurd h.1 hd, nofun⟩
  · intro d r' p hc
    by_cases hd : d = c
    · subst hd
      cases moved.symm.trans hc
      exact stops rfl
    · exact signalled (inv.signalled ((others hd).symm.trans hc))
  · rw [line, hline]
    show d ∈ rest ↔ _
    by_cases hd : d = c
    · subst hd
      rw [moved]
      refine ⟨fun hmem => absurd hmem hnodup.1, ?_⟩
      rintro ⟨r', heq⟩
      cases heq
      exact absurd rfl left
    · rw [others hd, ← inv.line d, hline, List.mem_cons, or_iff_right hd]
  · rw [line, hline]
    exact hnodup.2

/-- A call that has done with the slot in its turn leaves it free. -/
theorem Orderly.turn_away {r : Request} {phase : CallPhase} (inv : s.Orderly) (turn : s.HasTurn c)
    (moved : t.call? c = some ⟨r, phase⟩) (others : ∀ {d}, d ≠ c → t.call? d = s.call? d)
    (line : t.slot.line = s.slot.line.tail) (away : phase.atSlot = false)
    (free : t.slot.holder = none) (signalled : ∀ {p}, s.isSignalled p = true → t.isSignalled p = true)
    (present : ∀ {p}, t.slot.poller = some p → p < t.pollers.length) : t.Orderly := by
  refine inv.turn turn moved others line ?_ (fun d => ?_) (fun kept => absurd free kept) ?_ signalled present
  · rintro rfl
    cases away
  · rw [free]
    refine ⟨nofun, ?_⟩
    rintro ⟨-, ⟨p, rfl⟩, -⟩
    cases away
  · rintro p rfl
    cases away

/-- A call whose poller has finished waits no longer. -/
theorem Orderly.leave {r : Request} {phase : CallPhase} (inv : s.Orderly)
    (call : s.call? c = some ⟨r, .stopping p⟩) (moved : t.call? c = some ⟨r, phase⟩)
    (others : ∀ {d}, d ≠ c → t.call? d = s.call? d) (away : phase.atSlot = false)
    (line : t.slot.line = s.slot.line)
    (holder : t.slot.holder = if r = .logout then s.slot.holder else none)
    (empty : t.slot.holder ≠ none → t.slot.poller = none)
    (signalled : ∀ {p}, s.isSignalled p = true → t.isSignalled p = true)
    (present : ∀ {p}, t.slot.poller = some p → p < t.pollers.length) : t.Orderly := by
  have hstops : ∀ {d r' q}, t.call? d = some ⟨r', .stopping q⟩ ↔
      d ≠ c ∧ s.call? d = some ⟨r', .stopping q⟩ := by
    intro d r' q
    by_cases hd : d = c
    · subst hd
      rw [moved]
      refine ⟨fun h => ?_, fun h => absurd rfl h.1⟩
      cases h
      cases away
    · rw [others hd, and_iff_right hd]
  refine ⟨fun d => ?_, empty, fun hd => signalled (inv.signalled (hstops.1 hd).2), fun d => ?_,
    line ▸ inv.nodup, present⟩
  · simp only [hstops]
    by_cases hr : r = .logout
    · rw [holder, if_pos hr, inv.holder d]
      constructor
      · rintro ⟨r', q, hd, hr'⟩
        refine ⟨r', q, ⟨?_, hd⟩, hr'⟩
        rintro rfl
        cases call.symm.trans hd
        exact hr' hr
      · rintro ⟨r', q, ⟨-, hd⟩, hr'⟩
        exact ⟨r', q, hd, hr'⟩
    · rw [holder, if_neg hr]
      refine ⟨nofun, ?_⟩
      rintro ⟨r', q, ⟨hne, hd⟩, hr'⟩
      have hc := (inv.holder c).2 ⟨r, p, call, hr⟩
      cases hc.symm.trans ((inv.holder d).2 ⟨r', q, hd, hr'⟩)
      exact absurd rfl hne
  · rw [line, inv.line d]
    by_cases hd : d = c
    · subst hd
      rw [moved, call]
      constructor
      · rintro ⟨r', h⟩
        cases h
      · rintro ⟨r', h⟩
        cases h
        cases away
    · rw [others hd]

/-- A call that does not come near the slot leaves it in order. -/
theorem Step.orderly_of_away {r : Request} {phase phase' : CallPhase} (h : s.Step e t effects)
    (inv : s.Orderly) (hactor : e.actor? = some (.call c)) (before : s.call? c = some ⟨r, phase⟩)
    (after : t.call? c = some ⟨r, phase'⟩) (away : phase.atSlot = false) (away' : phase'.atSlot = false)
    (slot : t.slot = s.slot) (pollers : t.pollers = s.pollers) : t.Orderly := by
  refine inv.congr (h.atSlot_iff hactor (fun hc => ?_) fun hc => ?_) (by rw [slot]) (by rw [slot])
    (fun hp => slot ▸ hp) h.isSignalled (Nat.le_of_eq (by rw [pollers]))
  · cases before.symm.trans hc
    exact away
  · cases after.symm.trans hc
    exact away'

/-- Every step keeps the slot, its line and the calls in agreement. -/
theorem Step.orderly (h : s.Step e t effects) (inv : s.Orderly) : t.Orderly := by
  have hstep := h
  cases h
  case start r held new =>
    refine inv.congr (hstep.atSlot_iff rfl (fun hc => ?_) fun hc => ?_) rfl rfl id id (Nat.le_refl _)
    · cases new.symm.trans hc
    · rw [call?_append new, if_pos rfl] at hc
      cases hc
      cases r <;> rfl
  case askUser call _ | clear call | adopt call | callFindsNone call _ | callChecks call _ | callJudges call =>
    exact hstep.orderly_of_away inv rfl call (call?_setCall_self call) rfl rfl rfl rfl
  case hearUser call _ heard _ | hearNoUser call _ heard _ | hearLogout call heard _
      | hearNoLogout call heard _ | callHears call _ heard _ =>
    exact hstep.orderly_of_away inv (Event.actor?_of_heard? heard) call (call?_setCall_self call)
      rfl rfl rfl rfl
  case lineUp call _ | lineUpAdopted call => exact inv.enqueue call rfl
  case tellPolling call turn =>
    exact inv.turn_away turn (call?_setCall_self (s := s.leaveLine) call) call?_setCall_of_ne rfl rfl
      turn.1 id inv.present
  case askLogout call turn _ =>
    exact inv.turn_away turn (call?_setCall_self (s := s.leaveLine) call) call?_setCall_of_ne rfl rfl
      turn.1 id inv.present
  case install call turn _ _ _ =>
    refine inv.turn_away turn (call?_setCall_self (s := s.leaveLine) call) call?_setCall_of_ne rfl rfl
      rfl hstep.isSignalled fun hp => ?_
    cases hp
    show _ < (s.pollers ++ [Poller.fresh]).length
    rw [List.length_append]
    exact Nat.lt_succ_self _
  case takeOut p call turn full =>
    refine inv.turn turn (call?_setCall_self (s := s.leaveLine) call) call?_setCall_of_ne rfl nofun
      (fun d => ?_) (fun _ => rfl) ?_ hstep.isSignalled nofun
    · show s.slot.holder = some d ↔ _
      rw [turn.1]
      exact ⟨nofun, fun h => absurd rfl h.2.2⟩
    · intro q hq
      cases hq
      exact isSignalled_signal_self (s := { s with slot := _ }) (inv.present full)
  case replace p _ call turn logout _ full =>
    refine inv.turn turn (call?_setCall_self (s := s.leaveLine) call) call?_setCall_of_ne rfl nofun
      (fun d => ?_) (fun _ => rfl) ?_ hstep.isSignalled nofun
    · show some _ = some d ↔ _
      constructor
      · intro hd
        cases hd
        exact ⟨rfl, ⟨p, rfl⟩, logout⟩
      · rintro ⟨rfl, -⟩
        rfl
    · intro q hq
      cases hq
      exact isSignalled_signal_self (s := { s with slot := _ }) (inv.present full)
  case askLogoutStopped call _ =>
    exact inv.leave call (call?_setCall_self call) call?_setCall_of_ne rfl rfl rfl inv.empty id inv.present
  case installStopped call logout _ =>
    refine inv.leave call (call?_setCall_self call) call?_setCall_of_ne rfl rfl (if_neg logout).symm
      (fun kept => absurd rfl kept) hstep.isSignalled fun hp => ?_
    cases hp
    show _ < (s.pollers ++ [Poller.fresh]).length
    rw [List.length_append]
    exact Nat.lt_succ_self _
  case settle | tick | pollerChecks | pollerHears => exact inv.setPoller
  case pollerGoesOn => exact inv.withSession.setPoller.letGo
  case abandon | shutdown | pollerFindsNone => exact inv.setPoller.letGo
  case settleFails | tickFails => exact inv.noteFailed.setPoller.letGo
  case pollerEnds => exact inv.withSession.setPoller.letGo
  case elapse | clone | notify => exact inv.congr (fun _ => Iff.rfl) rfl rfl id id (Nat.le_refl _)
  case drop => exact Orderly.letGo (inv.congr (fun _ => Iff.rfl) rfl rfl id id (Nat.le_refl _))

end State

theorem Run.orderly {config : Config} {table : Navigation.Table} {trace : Trace} {s : State}
    (h : Run (.initial config table) trace s) : s.Orderly :=
  h.induction (P := fun _ s => s.Orderly) State.orderly_initial fun _ inv step =>
    (State.Step.of_step? step).orderly inv

end AdminConsole.Client
