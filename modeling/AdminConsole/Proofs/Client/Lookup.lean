import AdminConsole.Client.Step

/-!
# Reading a client after an update

What `setCall`, `setPoller`, `signal` and `letGo` leave in the places where a client is read: its
calls, its pollers, the session and the slot. Everything later goes through these equations, so that
no proof looks at how calls and pollers are stored.

`letGo` is the one update that may or may not act: `letGo_cases` says when it does.
-/

namespace AdminConsole.Client

/-- A call is open in every phase but the last. -/
theorem Call.isOpen_of_ne_done {r : Request} {phase : CallPhase} (h : ∀ o, phase ≠ .done o) :
    (⟨r, phase⟩ : Call).isOpen = true := by
  cases phase <;> first | rfl | exact absurd rfl (h _)

namespace State

variable {s : State} {c d p q : Nat}

/-! ## Calls -/

theorem lookup_map (l : List (Nat × Call)) (f : Call → Call) :
    (l.map fun x => (x.1, if x.1 = c then f x.2 else x.2)).lookup d =
      if d = c then (l.lookup d).map f else l.lookup d := by
  induction l with
  | nil => simp
  | cons x l ih =>
    obtain ⟨k, call⟩ := x
    simp only [List.map_cons, List.lookup_cons, ih]
    by_cases hk : d = k
    · subst hk
      by_cases hc : d = c <;> simp [hc]
    · have hk' : (d == k) = false := by simpa using hk
      simp [hk']

theorem call?_setCall {phase : CallPhase} :
    (s.setCall c phase).call? d =
      if d = c then (s.call? d).map ({ · with phase := phase }) else s.call? d :=
  lookup_map s.calls fun call => { call with phase := phase }

/-- What the acting call looks like afterwards. -/
theorem call?_setCall_self {call : Call} {phase : CallPhase} (h : s.call? c = some call) :
    (s.setCall c phase).call? c = some { call with phase := phase } := by
  rw [call?_setCall, if_pos rfl, h]; rfl

theorem call?_setCall_of_ne {phase : CallPhase} (h : d ≠ c) :
    (s.setCall c phase).call? d = s.call? d := by
  rw [call?_setCall, if_neg h]

@[simp] theorem call?_setPoller {phase : PollerPhase} : (s.setPoller p phase).call? d = s.call? d := rfl

theorem callPhase?_of_call? {call : Call} (h : s.call? c = some call) :
    s.callPhase? c = some call.phase := by
  rw [callPhase?, h]; rfl

theorem isOpen_of_isIdle {call : Call} (h : s.isIdle = true) (hc : s.call? c = some call) :
    call.isOpen = false := by
  obtain ⟨l, r, hcalls, -⟩ := List.lookup_eq_some_iff.1 hc
  have hmem : (c, call) ∈ s.calls := by rw [hcalls]; simp
  simpa using List.all_eq_true.1 h _ hmem

theorem isOpen_of_outcome? {call : Call} (hc : s.call? c = some call) (h : s.outcome? c = none) :
    call.isOpen = true := by
  rw [outcome?, hc] at h
  exact Option.isNone_iff_eq_none.2 h

/-! ## Pollers -/

theorem pollerPhase?_setPoller {phase : PollerPhase} :
    (s.setPoller p phase).pollerPhase? q =
      if p = q then (s.pollerPhase? q).map fun _ => phase else s.pollerPhase? q := by
  simp only [pollerPhase?, setPoller, List.getElem?_modify]
  by_cases h : p = q
  · cases s.pollers[q]? <;> simp [h]
  · cases s.pollers[q]? <;> simp [h]

@[simp] theorem pollerPhase?_signal : (s.signal p).pollerPhase? q = s.pollerPhase? q := by
  simp only [pollerPhase?, signal, List.getElem?_modify]
  by_cases h : p = q
  · cases s.pollers[q]? <;> simp [h]
  · cases s.pollers[q]? <;> simp [h]

theorem pollerPhase?_of_getElem? {poller : Poller} (h : s.pollers[p]? = some poller) :
    s.pollerPhase? p = some poller.phase := by
  rw [pollerPhase?, h]; rfl

@[simp] theorem isSignalled_setPoller {phase : PollerPhase} :
    (s.setPoller p phase).isSignalled q = s.isSignalled q := by
  simp only [isSignalled, setPoller, List.getElem?_modify]
  by_cases h : p = q
  · cases s.pollers[q]? <;> simp [h]
  · cases s.pollers[q]? <;> simp [h]

theorem isSignalled_of_getElem? {poller : Poller} (h : s.pollers[p]? = some poller) :
    s.isSignalled p = poller.signalled := by
  rw [isSignalled, h]; rfl

/-- A poller has not finished if it stands in any other phase. -/
theorem hasFinished_eq_false_iff :
    s.hasFinished p = false ↔ ∃ phase, s.pollerPhase? p = some phase ∧ phase ≠ .finished := by
  unfold hasFinished pollerPhase?
  cases h : s.pollers[p]? with
  | none => simp
  | some poller => simp [Poller.isFinished]

theorem hasFinished_of_phase (h : s.pollerPhase? p = some .finished) : s.hasFinished p = true := by
  refine Bool.not_eq_false _ ▸ fun hrunning => ?_
  obtain ⟨phase, hphase, hne⟩ := hasFinished_eq_false_iff.1 hrunning
  exact hne (Option.some.inj (hphase.symm.trans h))

@[simp] theorem session_setPoller {phase : PollerPhase} : (s.setPoller p phase).session = s.session := rfl

/-! ## Checks -/

/-- The phase of the check that a task is in, if it is in one. -/
def checkPhase? (s : State) : Task → Option CheckPhase
  | .call c =>
    match s.callPhase? c with
    | some (.checking phase) => some phase
    | _ => none
  | .poller p =>
    match s.pollerPhase? p with
    | some (.checking _ phase) => some phase
    | _ => none

section
variable {phase : CheckPhase}

theorem checkPhase?_call_iff :
    s.checkPhase? (.call c) = some phase ↔ ∃ r, s.call? c = some ⟨r, .checking phase⟩ := by
  constructor
  · intro h
    simp only [checkPhase?] at h
    split at h
    · rename_i phase' hphase
      cases h
      obtain ⟨⟨r, _⟩, hc, rfl⟩ := Option.map_eq_some_iff.1 hphase
      exact ⟨r, hc⟩
    · cases h
  · rintro ⟨r, hc⟩
    simp only [checkPhase?, callPhase?_of_call? hc]

theorem checkPhase?_poller_iff :
    s.checkPhase? (.poller p) = some phase ↔
      ∃ next signalled, s.pollers[p]? = some ⟨.checking next phase, signalled⟩ := by
  constructor
  · intro h
    simp only [checkPhase?] at h
    split at h
    · rename_i next phase' hphase
      cases h
      obtain ⟨⟨_, signalled⟩, hp, rfl⟩ := Option.map_eq_some_iff.1 hphase
      exact ⟨next, signalled, hp⟩
    · cases h
  · rintro ⟨next, signalled, hp⟩
    simp only [checkPhase?, pollerPhase?_of_getElem? hp]

end

/-! ## Who holds the session -/

/-- Somebody holds the session: a handle, or a poller in the middle of a check. -/
theorem references_pos_iff :
    0 < s.references ↔
      0 < s.handles ∨ ∃ p next phase, s.pollerPhase? p = some (.checking next phase) := by
  have hcount : 0 < s.pollers.countP Poller.isChecking ↔
      ∃ p next phase, s.pollerPhase? p = some (.checking next phase) := by
    rw [List.countP_pos_iff]
    constructor
    · rintro ⟨poller, hmem, hchecking⟩
      obtain ⟨p, hp⟩ := List.mem_iff_getElem?.1 hmem
      unfold Poller.isChecking at hchecking
      split at hchecking
      · rename_i next phase hphase
        exact ⟨p, next, phase, by rw [pollerPhase?_of_getElem? hp, hphase]⟩
      · cases hchecking
    · rintro ⟨p, next, phase, hp⟩
      obtain ⟨poller, hpoller, hphase⟩ := Option.map_eq_some_iff.1 hp
      exact ⟨poller, List.mem_of_getElem? hpoller, by simp [Poller.isChecking, hphase]⟩
  rw [references, ← hcount]
  omega

/-! ## Letting go -/

theorem letGo_cases :
    s.letGo = (s, []) ∨
    s.references = 0 ∧ ∃ p, s.slot.poller = some p ∧
      s.letGo = ({ s with slot := { s.slot with poller := none } }.signal p, [.woken (.poller p)]) := by
  unfold letGo
  cases hp : s.slot.poller with
  | none => exact Or.inl rfl
  | some p =>
    by_cases h : s.references = 0
    · exact Or.inr ⟨h, p, rfl, by simp [h]⟩
    · exact Or.inl (by simp [h])

/-- Letting go touches the poller of the slot and the signals, and nothing else. -/
theorem letGo_eq_of {α : Type} {f : State → α}
    (h : ∀ p, f ({ s with slot := { s.slot with poller := none } }.signal p) = f s) :
    f s.letGo.1 = f s := by
  obtain h' | ⟨-, p, -, h'⟩ := letGo_cases (s := s)
  · rw [h']
  · rw [h', h p]

@[simp] theorem session_letGo : s.letGo.1.session = s.session := letGo_eq_of fun _ => rfl

@[simp] theorem handles_letGo : s.letGo.1.handles = s.handles := letGo_eq_of fun _ => rfl

@[simp] theorem config_letGo : s.letGo.1.config = s.config := letGo_eq_of fun _ => rfl

@[simp] theorem now_letGo : s.letGo.1.now = s.now := letGo_eq_of fun _ => rfl

@[simp] theorem call?_letGo : s.letGo.1.call? c = s.call? c :=
  letGo_eq_of (f := (call? · c)) fun _ => rfl

@[simp] theorem pollerPhase?_letGo : s.letGo.1.pollerPhase? q = s.pollerPhase? q :=
  letGo_eq_of (f := (pollerPhase? · q)) fun _ => pollerPhase?_signal

/-- While somebody holds the session, letting go of it changes nothing. -/
theorem letGo_of_held (h : 0 < s.references) : s.letGo = (s, []) := by
  obtain h' | ⟨h', -⟩ := letGo_cases (s := s)
  · exact h'
  · omega

theorem references_letGo_pos_iff : 0 < s.letGo.1.references ↔ 0 < s.references := by
  simp only [references_pos_iff, handles_letGo, pollerPhase?_letGo]

/-! ## Larger updates

Each comes down to the ones above, as far as its effect on one part of the client goes. -/

section
variable {x : Session} {k : Slot} {n : Nat} {call : Call} {user : UserData} {time : LoginTime}
  {events : List LogEvent} {phase : PollerPhase}

@[simp] theorem call?_enqueue : (s.enqueue c).call? d = (s.setCall c .queued).call? d := rfl
@[simp] theorem call?_stopPoller : (s.stopPoller c p).call? d = (s.setCall c (.stopping p)).call? d := rfl
@[simp] theorem call?_install : (s.install c).1.call? d = (s.setCall c (.done .completed)).call? d := rfl
@[simp] theorem call?_adopt : (s.adopt c user time).1.call? d = (s.setCall c .adopted).call? d := rfl

@[simp] theorem call?_endPoller : (s.endPoller p events).1.call? d = s.call? d := by
  show (s.setPoller p .finished).letGo.1.call? d = s.call? d
  rw [call?_letGo, call?_setPoller]

/-- A call made under a new number. -/
theorem call?_append (new : s.call? c = none) :
    ({ s with calls := s.calls ++ [(c, call)] } : State).call? d =
      if d = c then some call else s.call? d := by
  show (s.calls ++ [(c, call)]).lookup d = _
  rw [List.lookup_append]
  by_cases hd : d = c
  · subst hd
    have hnone : s.calls.lookup d = none := new
    simp [hnone]
  · have hd' : (d == c) = false := by simpa using hd
    simp [List.lookup_cons, hd, hd', call?]

@[simp] theorem pollerPhase?_withSession :
    ({ s with session := x } : State).pollerPhase? q = s.pollerPhase? q := rfl

@[simp] theorem pollerPhase?_stopPoller : (s.stopPoller c p).pollerPhase? q = s.pollerPhase? q :=
  pollerPhase?_signal (s := { s with slot := { s.slot with poller := none } })

@[simp] theorem pollerPhase?_endPoller :
    (s.endPoller p events).1.pollerPhase? q = (s.setPoller p .finished).pollerPhase? q := by
  show (s.setPoller p .finished).letGo.1.pollerPhase? q = _
  rw [pollerPhase?_letGo]

/-- The poller that is put in charge has a number that none had before. -/
theorem pollerPhase?_install :
    (s.install c).1.pollerPhase? q =
      if q = s.pollers.length then some .spawned else s.pollerPhase? q := by
  show ((s.pollers ++ [Poller.fresh])[q]?).map Poller.phase = _
  rw [List.getElem?_append]
  by_cases hlt : q < s.pollers.length
  · rw [if_pos hlt, if_neg (by omega)]; rfl
  · by_cases heq : q = s.pollers.length
    · subst heq; simp [Poller.fresh]
    · have hnone : s.pollerPhase? q = none := by
        rw [pollerPhase?, List.getElem?_eq_none (by omega)]; rfl
      rw [if_neg hlt, if_neg heq, hnone, List.getElem?_eq_none (by simp; omega)]; rfl

theorem pollerPhase?_install_of_some {phase : PollerPhase} (h : s.pollerPhase? q = some phase) :
    (s.install c).1.pollerPhase? q = some phase := by
  obtain ⟨poller, hq, -⟩ := Option.map_eq_some_iff.1 h
  have hlt := (List.getElem?_eq_some_iff.1 hq).1
  rw [pollerPhase?_install, if_neg (by omega), h]

@[simp] theorem session_endPoller : (s.endPoller p events).1.session = s.session := by
  show (s.setPoller p .finished).letGo.1.session = s.session
  rw [session_letGo, session_setPoller]

end

end State

end AdminConsole.Client
