import AdminConsole.Proofs.Client.TaskStep
import AdminConsole.Proofs.Client.Check

/-!
# What can happen next

The step that a task can take in each of its phases, and how long it waits for the provider at most: a
deadline is never further away than the one that a request made now would have (`Run.deadline?_le`), and
when it has come the task can time out.
-/

namespace AdminConsole.Client

namespace State

variable {s t : State} {e : Event} {effects : List Effect} {c d p : Nat} {task : Task}

/-! ## Deadlines -/

theorem deadline?_call_iff :
    s.deadline? (.call c) = some d ↔
      ∃ r, s.call? c = some ⟨r, .asking d⟩ ∨
        ∃ login, s.call? c = some ⟨r, .checking (.asking login d)⟩ := by
  constructor
  · intro h
    obtain ⟨⟨r, phase⟩, hc, hd⟩ := Option.bind_eq_some_iff.1 h
    unfold Call.deadline? at hd
    split at hd
    · rename_i heq
      cases hd
      cases heq
      exact ⟨r, Or.inl hc⟩
    · rename_i login d' heq
      cases hd
      cases heq
      exact ⟨r, Or.inr ⟨login, hc⟩⟩
    · cases hd
  · rintro ⟨r, hc | ⟨login, hc⟩⟩ <;> rw [deadline?, hc] <;> rfl

theorem deadline?_poller_iff :
    s.deadline? (.poller p) = some d ↔
      ∃ next login, s.pollerPhase? p = some (.checking next (.asking login d)) := by
  constructor
  · intro h
    obtain ⟨⟨phase, signalled⟩, hp, hd⟩ := Option.bind_eq_some_iff.1 h
    unfold Poller.deadline? at hd
    split at hd
    · rename_i next login d' heq
      cases hd
      cases heq
      exact ⟨next, login, pollerPhase?_of_getElem? hp⟩
    · cases hd
  · rintro ⟨next, login, hp⟩
    obtain ⟨poller, hp, hphase⟩ := Option.map_eq_some_iff.1 hp
    rw [deadline?, hp]
    show poller.deadline? = some d
    rw [Poller.deadline?, hphase]

theorem deadline?_of_call? {call : Call} (hc : s.call? c = some call) :
    s.deadline? (.call c) = call.deadline? := by
  rw [deadline?, hc]; rfl

/-- A step leaves the deadline of a call as it is, or sets one for a request that the call makes. -/
theorem Step.deadline?_call (h : s.Step e t effects) (ht : t.deadline? (.call c) = some d) :
    s.deadline? (.call c) = some d ∨ d = s.newDeadline ∧ ∃ a, .asked (.call c) a ∈ effects := by
  by_cases hother : e.actor? ≠ some (.call c)
  · rw [deadline?, h.call?_of_ne_actor hother] at ht
    exact Or.inl ht
  obtain ⟨r, -, -, hc, -⟩ | ⟨call, call', asks, -, hc, hasks, step⟩ :=
    h.callStep (Decidable.not_not.1 hother)
  · rw [deadline?_of_call? hc] at ht
    cases r <;> cases ht
  · rw [deadline?_of_call? hc] at ht
    cases step with
    | askUser | askLogout | askLogoutStopped | checks =>
      exact Or.inr ⟨(Option.some.inj ht).symm, _, mem_asksIn.1 (hasks ▸ List.mem_singleton_self _)⟩
    | _ => cases ht

/-- The same of a poller. -/
theorem Step.deadline?_poller (h : s.Step e t effects) (ht : t.deadline? (.poller p) = some d) :
    s.deadline? (.poller p) = some d ∨ d = s.newDeadline ∧ ∃ a, .asked (.poller p) a ∈ effects := by
  obtain ⟨next, login, ht⟩ := deadline?_poller_iff.1 ht
  by_cases hother : e.actor? ≠ some (.poller p)
  · refine Or.inl (deadline?_poller_iff.2 ⟨next, login, ?_⟩)
    cases hs : s.pollerPhase? p with
    | none =>
      obtain hnone | ⟨hspawned, -⟩ := h.pollerPhase?_of_none hs
      · cases hnone.symm.trans ht
      · cases hspawned.symm.trans ht
    | some phase => exact (h.pollerPhase?_of_ne_actor hother hs).symm.trans ht
  · obtain ⟨phase, phase', asks, -, ht', hasks, step⟩ := h.pollerStep (Decidable.not_not.1 hother)
    cases ht'.symm.trans ht
    cases step with
    | checks => exact Or.inr ⟨rfl, .status, mem_asksIn.1 (hasks ▸ List.mem_singleton_self _)⟩

theorem Step.deadline? (h : s.Step e t effects) (ht : t.deadline? task = some d) :
    s.deadline? task = some d ∨ d = s.newDeadline ∧ ∃ a, .asked task a ∈ effects := by
  cases task with
  | call c => exact h.deadline?_call ht
  | poller p => exact h.deadline?_poller ht

theorem Step.newDeadline_le (h : s.Step e t effects) : s.newDeadline ≤ t.newDeadline := by
  rw [newDeadline, newDeadline, h.config]
  exact Nat.add_le_add_right h.now_le _

end State

section
variable {config : Config} {table : Navigation.Table} {trace : Trace} {s : State} {task : Task} {c d p : Nat}

/-- Nobody waits for the provider longer than a request that is made now would. -/
theorem Run.deadline?_le (h : Run (.initial config table) trace s) (hd : s.deadline? task = some d) :
    d ≤ s.newDeadline := by
  refine h.induction (P := fun _ s => ∀ d, s.deadline? task = some d → d ≤ s.newDeadline) ?_ ?_ d hd
  · cases task <;> nofun
  · intro l t e u effects _ ih step d hd
    have hle := (State.Step.of_step? step).newDeadline_le
    obtain hbefore | ⟨rfl, -⟩ := (State.Step.of_step? step).deadline? hd
    · exact Nat.le_trans (ih d hbefore) hle
    · exact hle

/-- Whoever has come to wait for the provider has asked, and waits as long as requests may take. -/
theorem Run.asked_at {x : State} (h : Run x trace s) (before : x.deadline? task = none)
    (hd : s.deadline? task = some d) :
    ∃ l y e effects l' a, trace = l ++ (e, effects) :: l' ∧ Run x l y ∧ .asked task a ∈ effects ∧
      d = y.newDeadline := by
  refine h.induction (P := fun trace s => s.deadline? task = some d →
    ∃ l y e effects l' a, trace = l ++ (e, effects) :: l' ∧ Run x l y ∧ Effect.asked task a ∈ effects ∧
      d = y.newDeadline) (fun hd => ?_) ?_ hd
  · cases before.symm.trans hd
  · intro l t e u effects hl ih step hd
    obtain hbefore | ⟨rfl, a, hasked⟩ := (State.Step.of_step? step).deadline? hd
    · obtain ⟨l', y, e', effects', l'', a, rfl, hy, hasked, heq⟩ := ih hbefore
      exact ⟨l', y, e', effects', l'' ++ [(e, effects)], a, by simp, hy, hasked, heq⟩
    · exact ⟨l, t, e, effects, [], a, rfl, hl, hasked, rfl⟩

/-! ## Checks of a poller -/

section
variable {next : Nat} {login : LoginTime} {reply : Reply RemoteStatus}

theorem State.pollerCheck_goesOn (alive : (judge s.session login reply).isAlive = true) :
    s.pollerCheck p next (.judging login reply) =
      some (({ s with session := judge s.session login reply }.setPoller p (.waiting next)).letGo.1,
        logged (judgeEvents s.session login reply) ++
          ({ s with session := judge s.session login reply }.setPoller p (.waiting next)).letGo.2) := by
  simp only [pollerCheck, alive, if_true]

theorem State.pollerCheck_ends (dead : (judge s.session login reply).isAlive = false) :
    s.pollerCheck p next (.judging login reply) =
      some ({ s with session := judge s.session login reply }.endPoller p
        (judgeEvents s.session login reply ++
          [LogEvent.pollerEnded (judge s.session login reply).status, .pollerStopped])) := by
  simp only [pollerCheck, dead]
  rfl

end

/-! ## Turns at the slot -/

section
variable {r : Request}

theorem State.takeTurn_polling :
    s.takeTurn c .polling =
      (s.leaveLine.setCall c (.done (.polling s.leaveLine.isWatched)), s.leaveLine.wakeNext) := rfl

theorem State.takeTurn_logout_empty (empty : s.slot.poller = none) :
    s.takeTurn c .logout =
      ((s.leaveLine.callAsks c .logout).1, s.leaveLine.wakeNext ++ (s.leaveLine.callAsks c .logout).2) := by
  have empty' : s.leaveLine.slot.poller = none := empty
  simp only [takeTurn, empty']

theorem State.takeTurn_logout_full (full : s.slot.poller = some p) :
    s.takeTurn c .logout =
      (s.leaveLine.stopPoller c p, s.leaveLine.wakeNext ++ [.woken (.poller p)]) := by
  have full' : s.leaveLine.slot.poller = some p := full
  simp only [takeTurn, full']

theorem State.takeTurn_empty (logout : r ≠ .logout) (polling : r ≠ .polling)
    (empty : s.slot.poller = none) : s.takeTurn c r = s.leaveLine.install c := by
  have empty' : s.leaveLine.slot.poller = none := empty
  cases r <;> first | contradiction | simp only [takeTurn, empty']

theorem State.takeTurn_full (logout : r ≠ .logout) (polling : r ≠ .polling)
    (full : s.slot.poller = some p) :
    s.takeTurn c r =
      ({ s.leaveLine with slot := { s.leaveLine.slot with holder := some c } }.stopPoller c p,
        [.woken (.poller p)]) := by
  have full' : s.leaveLine.slot.poller = some p := full
  cases r <;> first | contradiction | simp only [takeTurn, full']

end

/-! ## Time-outs -/

/-- The client at a moment that is yet to come, or now if it has passed. -/
def State.waited (s : State) (d : Nat) : State := { s with now := s.now + (d - s.now) }

theorem run_waited : Run s [(.elapse (d - s.now), [])] (s.waited d) := .singleton rfl

theorem le_now_waited : d ≤ (s.waited d).now := by
  show d ≤ s.now + (d - s.now)
  omega

theorem step?_of_due (hd : s.deadline? task = some d) (due : d ≤ s.now) :
    s.step? (.timeout task) = s.receives task (.failed .timeout) := by
  simp only [State.step?, hd, if_pos due]

/-- A login or a refresh that has waited until its deadline fails. -/
theorem step?_timeout_user {r : Request} {a : Ask} (call : s.call? c = some ⟨r, .asking d⟩)
    (asks : r.userAsk? = some a) (due : d ≤ s.now) :
    s.step? (.timeout (.call c)) =
      some (s.setCall c (.done (.failed .timeout)), r.failure .timeout) := by
  rw [step?_of_due (State.deadline?_of_call? call) due]
  show s.call? c >>= _ = _
  rw [call]
  cases r <;> cases asks <;> rfl

/-- A logout goes on all the same. -/
theorem step?_timeout_logout (call : s.call? c = some ⟨.logout, .asking d⟩) (due : d ≤ s.now) :
    s.step? (.timeout (.call c)) =
      some (s.setCall c .clearing, [.logged (.logoutRequestFailed .timeout)]) := by
  rw [step?_of_due (State.deadline?_of_call? call) due]
  show s.call? c >>= _ = _
  rw [call]
  rfl

theorem step?_timeout_callCheck {r : Request} {login : LoginTime}
    (call : s.call? c = some ⟨r, .checking (.asking login d)⟩) (due : d ≤ s.now) :
    s.step? (.timeout (.call c)) =
      some (s.setCall c (.checking (.judging login (.error .timeout))), []) := by
  rw [step?_of_due (State.deadline?_of_call? call) due]
  show s.call? c >>= _ = _
  rw [call]
  rfl

theorem step?_timeout_poller {next : Nat} {signalled : Bool} {login : LoginTime}
    (poller : s.pollers[p]? = some ⟨.checking next (.asking login d), signalled⟩) (due : d ≤ s.now) :
    s.step? (.timeout (.poller p)) =
      some (s.setPoller p (.checking next (.judging login (.error .timeout))), []) := by
  have hd : s.deadline? (.poller p) = some d :=
    State.deadline?_poller_iff.2 ⟨next, login, State.pollerPhase?_of_getElem? poller⟩
  rw [step?_of_due hd due]
  show s.pollers[p]? >>= _ = _
  rw [poller]
  rfl

/-- Whoever waits for the provider can time out when the deadline has come. -/
theorem Run.exists_step?_timeout (h : Run (.initial config table) trace s)
    (hd : s.deadline? task = some d) (due : d ≤ s.now) :
    ∃ t effects, s.step? (.timeout task) = some (t, effects) := by
  cases task with
  | call c =>
    obtain ⟨r, call | ⟨login, call⟩⟩ := State.deadline?_call_iff.1 hd
    · obtain rfl | ⟨a, asks⟩ := (call ▸ h.account c : Account (some _) _ _ _).of_asking
      · exact ⟨_, _, step?_timeout_logout call due⟩
      · exact ⟨_, _, step?_timeout_user call asks due⟩
    · exact ⟨_, _, step?_timeout_callCheck call due⟩
  | poller p =>
    obtain ⟨next, login, hp⟩ := State.deadline?_poller_iff.1 hd
    obtain ⟨⟨phase, signalled⟩, poller, rfl⟩ := Option.map_eq_some_iff.1 hp
    exact ⟨_, _, step?_timeout_poller poller due⟩

/-! ## Steps that a task takes by itself -/

/-- A task can take a step without anybody's help. -/
def State.CanStep (s : State) (task : Task) : Prop :=
  ∃ e t effects, e.actor? = some task ∧ e.isStart = false ∧ e.heard? = none ∧
    s.step? e = some (t, effects)

theorem step?_proceed_call {call : Call} (hc : s.call? c = some call) :
    s.step? (.proceed (.call c)) = s.proceedCall c call := by
  show s.call? c >>= s.proceedCall c = _
  rw [hc]; rfl

theorem canStep_of_proceedCall {call : Call} (hc : s.call? c = some call)
    (hstep : (s.proceedCall c call).isSome = true) : s.CanStep (.call c) := by
  obtain ⟨⟨t, effects⟩, hstep⟩ := Option.isSome_iff_exists.1 hstep
  exact ⟨.proceed (.call c), t, effects, rfl, rfl, rfl, (step?_proceed_call hc).trans hstep⟩

theorem step?_of_turn {r : Request} (call : s.call? c = some ⟨r, .queued⟩) (turn : s.HasTurn c) :
    s.step? (.proceed (.call c)) = some (s.takeTurn c r) := by
  have hturn : (s.slot.holder.isNone && s.slot.line.head? == some c) = true := by
    rw [turn.1, turn.2]
    simp
  rw [step?_proceed_call call]
  simp only [State.proceedCall, hturn, if_true]

theorem step?_of_stopped {r : Request} (call : s.call? c = some ⟨r, .stopping p⟩)
    (ended : s.hasFinished p = true) : s.step? (.proceed (.call c)) = some (s.afterStop c p r) := by
  rw [step?_proceed_call call]
  simp only [State.proceedCall, ended, if_true]

theorem canStep_of_turn {r : Request} (call : s.call? c = some ⟨r, .queued⟩) (turn : s.HasTurn c) :
    s.CanStep (.call c) :=
  ⟨_, _, _, rfl, rfl, rfl, step?_of_turn call turn⟩

theorem canStep_of_stopped {r : Request} (call : s.call? c = some ⟨r, .stopping p⟩)
    (ended : s.hasFinished p = true) : s.CanStep (.call c) :=
  ⟨_, _, _, rfl, rfl, rfl, step?_of_stopped call ended⟩

theorem canStep_of_applying {r : Request} {user : UserData} (call : s.call? c = some ⟨r, .applying user⟩) :
    s.CanStep (.call c) := by
  refine ⟨.adopt c 0, (s.adopt c user 0).1, (s.adopt c user 0).2, rfl, rfl, rfl, ?_⟩
  simp only [State.step?, State.callPhase?_of_call? call]

theorem exists_step?_of_opening (opening : s.checkPhase? task = some .opening) :
    ∃ t effects, s.step? (.proceed task) = some (t, effects) := by
  cases hlogin : loginOf? s.session with
  | none =>
    obtain ⟨t, effects, step, -⟩ := step?_of_opening_dead opening hlogin
    exact ⟨t, effects, step⟩
  | some login =>
    obtain ⟨t, effects, d, step, -⟩ := step?_of_opening_alive opening hlogin
    exact ⟨t, effects, step⟩

theorem canStep_of_opening (opening : s.checkPhase? task = some .opening) : s.CanStep task := by
  obtain ⟨t, effects, step⟩ := exists_step?_of_opening opening
  exact ⟨_, t, effects, by cases task <;> rfl, rfl, rfl, step⟩

theorem canStep_of_judging {login : LoginTime} {reply : Reply RemoteStatus}
    (judging : s.checkPhase? task = some (.judging login reply)) : s.CanStep task := by
  obtain ⟨t, effects, step, -⟩ := step?_of_judging judging
  exact ⟨_, t, effects, by cases task <;> rfl, rfl, rfl, step⟩

/-- A poller runs for the first time: it waits for its first tick. -/
theorem step?_settle {next : Nat} {signalled : Bool}
    (poller : s.pollers[p]? = some ⟨.spawned, signalled⟩)
    (first : firstTick? s.config.pollInterval s.now = some next) :
    s.step? (.proceed (.poller p)) =
      some (s.setPoller p (.waiting next),
        [.logged (.pollerStarted s.config.pollInterval.duration)]) := by
  show s.pollers[p]? >>= s.proceedPoller p = _
  rw [poller]
  simp only [Option.bind_eq_bind, Option.bind_some, State.proceedPoller, first]

/-- A poller that runs for the first time and has no first tick ends. -/
theorem step?_settleFails {signalled : Bool} (poller : s.pollers[p]? = some ⟨.spawned, signalled⟩)
    (none : firstTick? s.config.pollInterval s.now = none) :
    s.step? (.proceed (.poller p)) =
      some ((s.noteFailed p).endPoller p [.pollerStarted s.config.pollInterval.duration]) := by
  show s.pollers[p]? >>= s.proceedPoller p = _
  rw [poller]
  simp only [Option.bind_eq_bind, Option.bind_some, State.proceedPoller, none]

theorem exists_step?_of_spawned {signalled : Bool} (poller : s.pollers[p]? = some ⟨.spawned, signalled⟩) :
    ∃ t effects, s.step? (.proceed (.poller p)) = some (t, effects) := by
  cases hfirst : firstTick? s.config.pollInterval s.now with
  | none => exact ⟨_, _, step?_settleFails poller hfirst⟩
  | some next => exact ⟨_, _, step?_settle poller hfirst⟩

theorem step?_shutdown {next : Nat} (poller : s.pollers[p]? = some ⟨.waiting next, true⟩) :
    s.step? (.shutdown p) = some (s.endPoller p [.pollerSignalled, .pollerStopped]) := by
  simp only [State.step?, poller]

/-- A call that has not returned can take a step, or waits for its turn at the slot, for a poller to
finish or for the provider. -/
theorem canStep_of_isOpen {call : Call} (hc : s.call? c = some call) (hopen : call.isOpen = true) :
    s.CanStep (.call c) ∨ call.phase = .queued ∧ ¬s.HasTurn c ∨
      (∃ p, call.phase = .stopping p ∧ s.hasFinished p = false) ∨ ∃ d, s.deadline? (.call c) = some d := by
  obtain ⟨r, phase⟩ := call
  cases phase with
  | ready | adopted | clearing => exact Or.inl (canStep_of_proceedCall hc rfl)
  | asking d => exact Or.inr (Or.inr (Or.inr ⟨d, State.deadline?_of_call? hc⟩))
  | applying user => exact Or.inl (canStep_of_applying hc)
  | queued =>
    by_cases turn : s.HasTurn c
    · exact Or.inl (canStep_of_turn hc turn)
    · exact Or.inr (Or.inl ⟨rfl, turn⟩)
  | stopping p =>
    cases ended : s.hasFinished p with
    | true => exact Or.inl (canStep_of_stopped hc ended)
    | false => exact Or.inr (Or.inr (Or.inl ⟨p, rfl, ended⟩))
  | checking phase =>
    have hcheck : s.checkPhase? (.call c) = some phase := State.checkPhase?_call_iff.2 ⟨r, hc⟩
    cases phase with
    | opening => exact Or.inl (canStep_of_opening hcheck)
    | asking login d => exact Or.inr (Or.inr (Or.inr ⟨d, State.deadline?_of_call? hc⟩))
    | judging login reply => exact Or.inl (canStep_of_judging hcheck)
  | done outcome => cases hopen

/-- A poller that was told to stop and has not can take a step other than a tick, or waits for the
provider. -/
theorem exists_step?_of_signalled (running : s.hasFinished p = false) (signalled : s.isSignalled p = true) :
    (∃ e t effects, e.actor? = some (.poller p) ∧ e.isStart = false ∧ e.heard? = none ∧ e ≠ .tick p ∧
      s.step? e = some (t, effects)) ∨ ∃ d, s.deadline? (.poller p) = some d := by
  obtain ⟨phase, hphase, hne⟩ := State.hasFinished_eq_false_iff.1 running
  obtain ⟨⟨phase', signal⟩, hp, rfl⟩ := Option.map_eq_some_iff.1 hphase
  have hsignal : signal = true := (State.isSignalled_of_getElem? hp).symm.trans signalled
  subst hsignal
  cases phase' with
  | spawned =>
    obtain ⟨t, effects, step⟩ := exists_step?_of_spawned hp
    exact Or.inl ⟨.proceed (.poller p), t, effects, rfl, rfl, rfl, nofun, step⟩
  | waiting next => exact Or.inl ⟨.shutdown p, _, _, rfl, rfl, rfl, nofun, step?_shutdown hp⟩
  | checking next phase =>
    have hcheck : s.checkPhase? (.poller p) = some phase :=
      State.checkPhase?_poller_iff.2 ⟨next, true, hp⟩
    cases phase with
    | opening =>
      obtain ⟨t, effects, step⟩ := exists_step?_of_opening hcheck
      exact Or.inl ⟨.proceed (.poller p), t, effects, rfl, rfl, rfl, nofun, step⟩
    | asking login d => exact Or.inr ⟨d, State.deadline?_poller_iff.2 ⟨next, login, hphase⟩⟩
    | judging login reply =>
      obtain ⟨t, effects, step, -⟩ := step?_of_judging hcheck
      exact Or.inl ⟨.proceed (.poller p), t, effects, rfl, rfl, rfl, nofun, step⟩
  | finished => exact absurd rfl hne

theorem canStep_of_signalled (running : s.hasFinished p = false) (signalled : s.isSignalled p = true) :
    s.CanStep (.poller p) ∨ ∃ d, s.deadline? (.poller p) = some d := by
  obtain ⟨e, t, effects, hactor, hstart, hheard, -, step⟩ | hd := exists_step?_of_signalled running signalled
  · exact Or.inl ⟨e, t, effects, hactor, hstart, hheard, step⟩
  · exact Or.inr hd

end

end AdminConsole.Client
