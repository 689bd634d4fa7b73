import AdminConsole.Proofs.Client.Enabled

/-!
# A client without one of its calls

`State.withoutCall` takes a call out of a client. Every function from which the steps of a client are made
does to the client without the call what it does to the client with it, as the equations named after the
functions say, as long as the call does not wait for a poller. So whatever the others do, they also do
without the call (`step?_withoutCall`).
-/

namespace AdminConsole.Client

namespace State

/-- A client that has never seen a call. -/
def withoutCall (c : Nat) (s : State) : State := { s with calls := s.calls.filter fun x => x.1 != c }

end State

/-- The same in the outcome of a step. -/
def Move.withoutCall (c : Nat) (m : Move) : Move := (m.1.withoutCall c, m.2)

namespace State

variable {s t u : State} {e : Event} {effects : List Effect} {c d p : Nat} {trace : Trace}

/-! ## Taking a call out -/

theorem call?_withoutCall : (s.withoutCall c).call? d = if d = c then none else s.call? d := by
  show (s.calls.filter _).lookup d = if d = c then none else s.calls.lookup d
  induction s.calls with
  | nil => simp
  | cons x l ih =>
    obtain ⟨k, call⟩ := x
    by_cases hk : k = c
    · subst hk
      rw [List.filter_cons_of_neg (by simp), ih]
      by_cases hd : d = k
      · rw [if_pos hd, if_pos hd]
      · have hd' : (d == k) = false := by simpa using hd
        rw [if_neg hd, if_neg hd, List.lookup_cons, hd']
    · rw [List.filter_cons_of_pos (by simpa using hk), List.lookup_cons, List.lookup_cons, ih]
      by_cases hd : d = c
      · have hdk : (d == k) = false := by simpa [hd] using fun heq => hk heq.symm
        rw [hdk, if_pos hd]
      · rw [if_neg hd, if_neg hd]

theorem call?_withoutCall_self : (s.withoutCall c).call? c = none := by
  rw [call?_withoutCall, if_pos rfl]

theorem call?_withoutCall_of_ne (h : d ≠ c) : (s.withoutCall c).call? d = s.call? d := by
  rw [call?_withoutCall, if_neg h]

/-- Nothing is taken out of a client that has not seen the call. -/
theorem withoutCall_of_none (h : s.call? c = none) : s.withoutCall c = s := by
  have hcalls : s.calls.filter (fun x => x.1 != c) = s.calls := by
    rw [List.filter_eq_self]
    intro x hx
    have hne := List.lookup_eq_none_iff.1 h x hx
    simpa [bne, Bool.beq_comm] using hne
  rw [withoutCall, hcalls]

theorem setCall_withoutCall {phase : CallPhase} :
    (s.withoutCall c).setCall d phase = (s.setCall d phase).withoutCall c := by
  have hcalls : (s.setCall d phase).calls.filter (fun x => x.1 != c) =
      ((s.withoutCall c).setCall d phase).calls := by
    show (List.map _ s.calls).filter _ = _
    rw [List.filter_map]
    rfl
  show _ = ({ s with calls := (s.setCall d phase).calls.filter _ } : State)
  rw [hcalls]
  rfl

/-- How far the call has come makes no difference. -/
theorem withoutCall_setCall_self {phase : CallPhase} :
    (s.setCall c phase).withoutCall c = s.withoutCall c := by
  have hcalls : ((s.withoutCall c).setCall c phase).calls = (s.withoutCall c).calls := by
    refine (List.map_congr_left fun x hx => ?_).trans (List.map_id' _)
    have hne : x.1 ≠ c := by simpa using (List.mem_filter.1 hx).2
    simp [hne]
  rw [← setCall_withoutCall]
  show ({ s.withoutCall c with calls := ((s.withoutCall c).setCall c phase).calls } : State) = _
  rw [hcalls]

/-! ## The functions of a step -/

@[simp] theorem session_withoutCall : (s.withoutCall c).session = s.session := rfl
@[simp] theorem slot_withoutCall : (s.withoutCall c).slot = s.slot := rfl
@[simp] theorem config_withoutCall : (s.withoutCall c).config = s.config := rfl
@[simp] theorem now_withoutCall : (s.withoutCall c).now = s.now := rfl

theorem enqueue_withoutCall : (s.withoutCall c).enqueue d = (s.enqueue d).withoutCall c := by
  unfold enqueue
  rw [setCall_withoutCall]
  rfl

theorem install_withoutCall : (s.withoutCall c).install d = (s.install d).withoutCall c :=
  Prod.ext (setCall_withoutCall (s := { s with pollers := s.pollers ++ [Poller.fresh], slot := _ })) rfl

theorem callAsks_withoutCall {a : Ask} :
    (s.withoutCall c).callAsks d a = (s.callAsks d a).withoutCall c :=
  Prod.ext setCall_withoutCall rfl

theorem stopPoller_withoutCall :
    (s.withoutCall c).stopPoller d p = (s.stopPoller d p).withoutCall c :=
  setCall_withoutCall (s := State.signal { s with slot := _ } p)

theorem takeTurn_withoutCall {r : Request} :
    (s.withoutCall c).takeTurn d r = (s.takeTurn d r).withoutCall c := by
  by_cases hpolling : r = .polling
  · subst hpolling
    rw [takeTurn_polling, takeTurn_polling]
    exact Prod.ext (setCall_withoutCall (s := s.leaveLine)) rfl
  by_cases hlogout : r = .logout
  · subst hlogout
    cases hp : s.slot.poller with
    | none =>
      rw [takeTurn_logout_empty hp, takeTurn_logout_empty (s := s.withoutCall c) hp]
      exact Prod.ext (setCall_withoutCall (s := s.leaveLine)) rfl
    | some p =>
      rw [takeTurn_logout_full hp, takeTurn_logout_full (s := s.withoutCall c) hp]
      exact Prod.ext (stopPoller_withoutCall (s := s.leaveLine)) rfl
  · cases hp : s.slot.poller with
    | none =>
      rw [takeTurn_empty hlogout hpolling hp, takeTurn_empty (s := s.withoutCall c) hlogout hpolling hp]
      exact install_withoutCall (s := s.leaveLine)
    | some p =>
      rw [takeTurn_full hlogout hpolling hp, takeTurn_full (s := s.withoutCall c) hlogout hpolling hp]
      exact Prod.ext (stopPoller_withoutCall
        (s := { s.leaveLine with slot := { s.leaveLine.slot with holder := some d } })) rfl

theorem letGo_withoutCall : (s.withoutCall c).letGo = s.letGo.withoutCall c := by
  rw [letGo, letGo, slot_withoutCall]
  cases s.slot.poller with
  | none => rfl
  | some p =>
    show (if s.references = 0 then _ else _) = Move.withoutCall c (if s.references = 0 then _ else _)
    split <;> rfl

theorem waitersFor_withoutCall (h : c ∉ s.waitersFor p) :
    (s.withoutCall c).waitersFor p = s.waitersFor p := by
  show (List.filter _ (s.calls.filter _)).map Prod.fst = (List.filter _ s.calls).map Prod.fst
  rw [List.filter_filter]
  refine congrArg (List.map Prod.fst) (List.filter_congr fun x hx => ?_)
  by_cases hstops : (x.2.phase == .stopping p) = true
  · have hne : x.1 ≠ c := fun heq => h (List.mem_map.2 ⟨x, List.mem_filter.2 ⟨hx, hstops⟩, heq⟩)
    simp [hstops, hne]
  · simp [hstops]

theorem endPoller_withoutCall {events : List LogEvent} (h : c ∉ s.waitersFor p) :
    (s.withoutCall c).endPoller p events = (s.endPoller p events).withoutCall c := by
  have hletGo : ((s.withoutCall c).setPoller p .finished).letGo =
      (s.setPoller p .finished).letGo.withoutCall c := letGo_withoutCall (s := s.setPoller p .finished)
  unfold endPoller
  rw [waitersFor_withoutCall h, hletGo]
  rfl

theorem beginCall_withoutCall {r : Request} :
    (s.withoutCall c).beginCall d r = (s.beginCall d r).withoutCall c := by
  cases r with
  | login | refresh => exact callAsks_withoutCall
  | logout | polling | check => exact Prod.ext enqueue_withoutCall rfl

theorem callCheck_withoutCall {phase : CheckPhase} :
    (s.withoutCall c).callCheck d phase = (s.callCheck d phase).map (Move.withoutCall c) := by
  cases phase with
  | opening =>
    simp only [callCheck, session_withoutCall]
    cases loginOf? s.session with
    | none => exact congrArg some (Prod.ext setCall_withoutCall rfl)
    | some login => exact congrArg some (Prod.ext setCall_withoutCall rfl)
  | asking login d => rfl
  | judging login reply =>
    exact congrArg some (Prod.ext (setCall_withoutCall (s := { s with session := _ })) rfl)

theorem afterStop_withoutCall {r : Request} :
    (s.withoutCall c).afterStop d p r = (s.afterStop d p r).withoutCall c := by
  have hlog : ∀ {m m' : Move}, m' = m.withoutCall c →
      (m'.1, logged (s.joinEvents p) ++ m'.2) =
        Move.withoutCall c (m.1, logged (s.joinEvents p) ++ m.2) := by
    rintro m _ rfl
    rfl
  cases r with
  | logout => exact hlog callAsks_withoutCall
  | login | refresh | polling | check => exact hlog install_withoutCall

theorem proceedCall_withoutCall {call : Call} :
    (s.withoutCall c).proceedCall d call = (s.proceedCall d call).map (Move.withoutCall c) := by
  obtain ⟨r, phase⟩ := call
  cases phase with
  | ready => exact congrArg some beginCall_withoutCall
  | adopted => exact congrArg some (Prod.ext enqueue_withoutCall rfl)
  | queued =>
    unfold proceedCall
    show (if (s.slot.holder.isNone && s.slot.line.head? == some d) = true then _ else _) =
      Option.map _ (if (s.slot.holder.isNone && s.slot.line.head? == some d) = true then _ else _)
    split
    · exact congrArg some takeTurn_withoutCall
    · rfl
  | stopping p =>
    unfold proceedCall
    show (if s.hasFinished p = true then _ else _) = Option.map _ (if s.hasFinished p = true then _ else _)
    split
    · exact congrArg some afterStop_withoutCall
    · rfl
  | clearing => exact congrArg some (Prod.ext (setCall_withoutCall (s := { s with session := _ })) rfl)
  | checking phase => exact callCheck_withoutCall
  | asking | applying | done => rfl

theorem adopt_withoutCall {user : UserData} {time : LoginTime} :
    (s.withoutCall c).adopt d user time = (s.adopt d user time).withoutCall c :=
  Prod.ext (setCall_withoutCall (s := { s with session := _ })) rfl

theorem callReceives_withoutCall {call : Call} {a : Answer} :
    (s.withoutCall c).callReceives d call a = (s.callReceives d call a).map (Move.withoutCall c) := by
  unfold callReceives
  split <;> first | exact congrArg some (Prod.ext setCall_withoutCall rfl) | rfl

theorem pollerCheck_withoutCall {next : Nat} {phase : CheckPhase} (h : c ∉ s.waitersFor p) :
    (s.withoutCall c).pollerCheck p next phase = (s.pollerCheck p next phase).map (Move.withoutCall c) := by
  cases phase with
  | opening =>
    simp only [pollerCheck, session_withoutCall]
    cases loginOf? s.session with
    | none => exact congrArg some (endPoller_withoutCall h)
    | some login => rfl
  | asking login d => rfl
  | judging login reply =>
    cases alive : (judge s.session login reply).isAlive with
    | true =>
      rw [pollerCheck_goesOn alive, pollerCheck_goesOn (s := s.withoutCall c) alive]
      have hletGo := letGo_withoutCall (c := c)
        (s := ({ s with session := judge s.session login reply } : State).setPoller p (.waiting next))
      exact congrArg (fun m : Move => some (m.1, logged (judgeEvents s.session login reply) ++ m.2)) hletGo
    | false =>
      rw [pollerCheck_ends alive, pollerCheck_ends (s := s.withoutCall c) alive]
      exact congrArg some (endPoller_withoutCall (s := { s with session := _ }) h)

theorem proceedPoller_withoutCall {poller : Poller} (h : c ∉ s.waitersFor p) :
    (s.withoutCall c).proceedPoller p poller = (s.proceedPoller p poller).map (Move.withoutCall c) := by
  obtain ⟨phase, signalled⟩ := poller
  cases phase with
  | spawned =>
    simp only [proceedPoller, config_withoutCall, now_withoutCall]
    cases firstTick? s.config.pollInterval s.now with
    | none => exact congrArg some (endPoller_withoutCall (s := s.noteFailed p) h)
    | some next => rfl
  | checking next phase => exact pollerCheck_withoutCall h
  | waiting | finished => rfl

theorem pollerReceives_withoutCall {poller : Poller} {a : Answer} :
    (s.withoutCall c).pollerReceives p poller a =
      (s.pollerReceives p poller a).map (Move.withoutCall c) := by
  unfold pollerReceives
  split <;> rfl

theorem tick_withoutCall {due : Nat} (h : c ∉ s.waitersFor p) :
    (s.withoutCall c).tick p due = (s.tick p due).withoutCall c := by
  simp only [tick, config_withoutCall, now_withoutCall]
  cases nextTick? s.config.pollInterval due s.now with
  | none => exact endPoller_withoutCall (s := s.noteFailed p) h
  | some next =>
    show (if s.references = 0 then _ else _) = Move.withoutCall c (if s.references = 0 then _ else _)
    split
    · exact endPoller_withoutCall h
    · rfl

theorem deadline?_withoutCall {task : Task} (h : task ≠ .call c) :
    (s.withoutCall c).deadline? task = s.deadline? task := by
  cases task with
  | call d =>
    have hd : d ≠ c := fun heq => h (congrArg Task.call heq)
    rw [deadline?, call?_withoutCall_of_ne hd, deadline?]
  | poller p => rfl

theorem receives_withoutCall {task : Task} {a : Answer} (h : task ≠ .call c) :
    (s.withoutCall c).receives task a = (s.receives task a).map (Move.withoutCall c) := by
  cases task with
  | call d =>
    have hd : d ≠ c := fun heq => h (congrArg Task.call heq)
    rw [receives, receives, call?_withoutCall_of_ne hd]
    cases s.call? d with
    | none => rfl
    | some call => exact callReceives_withoutCall
  | poller p =>
    show s.pollers[p]? >>= _ = Option.map _ (s.pollers[p]? >>= _)
    cases s.pollers[p]? with
    | none => rfl
    | some poller => exact pollerReceives_withoutCall

theorem mayDrop_withoutCall (h : s.mayDrop = true) : (s.withoutCall c).mayDrop = true := by
  have hidle : s.isIdle = true → (s.withoutCall c).isIdle = true := by
    intro hidle
    refine List.all_eq_true.2 fun x hx => ?_
    exact List.all_eq_true.1 hidle x (List.mem_filter.1 hx).1
  rw [mayDrop, Bool.or_eq_true, Bool.and_eq_true] at h ⊢
  exact h.imp id (And.imp id hidle)

/-- What others do they also do without a call that waits for no poller. -/
theorem step?_withoutCall (hother : e.actor? ≠ some (.call c)) (away : ∀ p, c ∉ s.waitersFor p)
    (h : s.step? e = some (t, effects)) :
    (s.withoutCall c).step? e = some (t.withoutCall c, effects) := by
  have hmap : (s.withoutCall c).step? e = (s.step? e).map (Move.withoutCall c) →
      (s.withoutCall c).step? e = some (t.withoutCall c, effects) := fun heq => by rw [heq, h]; rfl
  have hcall : ∀ {d}, e.actor? = some (.call d) → d ≠ c := by
    rintro d hactor rfl
    exact hother hactor
  have htask : ∀ {task}, e.actor? = some task → task ≠ .call c := by
    rintro task hactor rfl
    exact hother hactor
  cases e with
  | start d r =>
    have hd := hcall rfl
    refine hmap ?_
    simp only [step?, call?_withoutCall_of_ne hd]
    show (if 0 < s.handles ∧ s.call? d = none then _ else _) =
      Option.map _ (if 0 < s.handles ∧ s.call? d = none then _ else _)
    split
    · have hcalls : (s.withoutCall c).calls ++ [(d, Call.ofRequest r)] =
          (s.calls ++ [(d, Call.ofRequest r)]).filter fun x => x.1 != c := by
        rw [List.filter_append, List.filter_cons_of_pos (by simpa using hd)]
        rfl
      rw [hcalls]
      rfl
    · rfl
  | proceed task =>
    refine hmap ?_
    cases task with
    | call d =>
      show (s.withoutCall c).call? d >>= _ = Option.map _ (s.call? d >>= _)
      rw [call?_withoutCall_of_ne (hcall rfl)]
      cases s.call? d with
      | none => rfl
      | some call => exact proceedCall_withoutCall
    | poller p =>
      show s.pollers[p]? >>= _ = Option.map _ (s.pollers[p]? >>= _)
      cases s.pollers[p]? with
      | none => rfl
      | some poller => exact proceedPoller_withoutCall (away p)
  | adopt d time =>
    have hphase : (s.withoutCall c).callPhase? d = s.callPhase? d := by
      rw [callPhase?, call?_withoutCall_of_ne (hcall rfl), callPhase?]
    refine hmap ?_
    simp only [step?, hphase]
    split
    · exact congrArg some adopt_withoutCall
    · rfl
  | answer task a =>
    refine hmap ?_
    simp only [step?, deadline?_withoutCall (htask rfl)]
    cases s.deadline? task with
    | none => rfl
    | some d => exact receives_withoutCall (htask rfl)
  | timeout task =>
    refine hmap ?_
    simp only [step?, deadline?_withoutCall (htask rfl)]
    cases s.deadline? task with
    | none => rfl
    | some d =>
      show (if d ≤ s.now then _ else _) = Option.map _ (if d ≤ s.now then _ else _)
      split
      · exact receives_withoutCall (htask rfl)
      · rfl
  | tick p =>
    have hphase : (s.withoutCall c).pollerPhase? p = s.pollerPhase? p := rfl
    refine hmap ?_
    simp only [step?, hphase]
    split
    · rename_i next _
      show (if next ≤ s.now then _ else _) = Option.map _ (if next ≤ s.now then _ else _)
      split
      · exact congrArg some (tick_withoutCall (away p))
      · rfl
    · rfl
  | shutdown p =>
    have hpollers : (s.withoutCall c).pollers = s.pollers := rfl
    refine hmap ?_
    simp only [step?, hpollers]
    split
    · exact congrArg some (endPoller_withoutCall (away p))
    · rfl
  | elapse k => exact hmap rfl
  | clone =>
    refine hmap ?_
    show (if 0 < s.handles then _ else _) = Option.map _ (if 0 < s.handles then _ else _)
    split <;> rfl
  | drop =>
    simp only [step?] at h ⊢
    split at h
    · rename_i may
      rw [if_pos (mayDrop_withoutCall may)]
      exact (congrArg some (letGo_withoutCall (s := { s with handles := s.handles - 1 }))).trans
        (congrArg (Option.map (Move.withoutCall c)) h)
    · cases h
  | notify operation => exact hmap rfl

end State

end AdminConsole.Client
