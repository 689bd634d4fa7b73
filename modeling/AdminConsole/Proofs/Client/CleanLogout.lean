import AdminConsole.Proofs.Client.Course
import AdminConsole.Proofs.Client.Logout

/-!
# A logout that nothing overlaps

When calls do not overlap, a logout leaves nothing behind that it should have ended: `logout_clean`. It
waits until the poller has finished before it asks the provider, it returns whatever it hears or if it
hears nothing, with the session as it was at the start and with no poller running, and from its request on
nobody asks for the status of the session until somebody has logged in again.

A logout returns on every fair course (`Course.exists_returned`). No number of steps bounds the wait, since
a poller may run checks before it heeds that it was told to stop; but at every moment there is a short way
to the return (`Run.logoutReturns`).
-/

namespace AdminConsole.Client

/-- Nobody makes a call, and the provider does not answer. -/
def Unaided (trace : Trace) : Prop :=
  ∀ x ∈ trace, x.1.isStart = false ∧ ∀ task a, x.1 ≠ .answer task a

/-- Every open call is a logout or was made in the trace. -/
def LogoutOrNew (s : State) (trace : Trace) : Prop :=
  ∀ {c call}, s.call? c = some call → call.isOpen = true →
    call.request = .logout ∨ ∃ effects, (.start c call.request, effects) ∈ trace

/-- How many steps a logout is at most from its return. -/
def CallPhase.stepsToReturn : CallPhase → Nat
  | .done _ => 0
  | .clearing | .checking (.judging ..) => 1
  | .asking _ | .checking (.asking ..) => 2
  | .stopping _ | .checking .opening => 3
  | .queued => 4
  | .ready | .adopted => 5
  | .applying _ => 6

namespace State

/-- Without further calls and without an answer, the logout can return. -/
def LogoutReturns (s : State) (c : Nat) : Prop :=
  ∃ l t u effects, Run s l t ∧ Unaided l ∧ t.outcome? c = none ∧
    t.step? (.proceed (.call c)) = some (u, effects) ∧ u.call? c = some ⟨.logout, .done .completed⟩

/-- Nobody asks for the status of the session until a login or a refresh that is yet to be made has
succeeded, as long as calls do not overlap. -/
def SilentUntilLogin (s : State) : Prop :=
  ∀ mid t e u effects task, Run s mid t → isSequential s mid = true → t.step? e = some (u, effects) →
    .asked task .status ∈ effects →
    ∃ c r a effects', (.start c r, effects') ∈ mid ∧ r.userAsk? = some a ∧
      t.call? c = some ⟨r, .done .completed⟩

/-- Until a login or a refresh adopts, the session stays as it is, and no poller comes or goes. -/
def UnchangedUntilLogin (s : State) : Prop :=
  ∀ mid t, Run s mid t → loginTimes mid = [] →
    t.session = s.session ∧ t.pollers = s.pollers ∧ t.slot.poller = s.slot.poller

end State

/-- What a logout does that has been made in the run `trace`, from the state `s` that it has led to. -/
structure CleanLogout (c : Nat) (trace : Trace) (s : State) : Prop where
  /-- It asks the provider only when every poller has finished, and from then on nobody asks for the
  status of the session before the next login. -/
  asks : ∀ {e t effects}, s.step? e = some (t, effects) → .asked (.call c) .logout ∈ effects →
    s.Still ∧ t.SilentUntilLogin
  /-- Whatever it hears, that the provider confirms it, that it fails or that time is up, it returns in
  its next step. -/
  heeds : ∀ {e t effects a}, s.step? e = some (t, effects) → e.heard? = some (.call c, a) →
    ∃ u effects', t.step? (.proceed (.call c)) = some (u, effects') ∧
      u.call? c = some ⟨.logout, .done .completed⟩
  /-- When it returns it has asked once, the session is unauthenticated and no poller runs. So it stays
  until the next login: another logout changes nothing. -/
  returns : ∀ {e t effects o}, s.step? e = some (t, effects) → s.outcome? c = none →
    t.call? c = some ⟨.logout, .done o⟩ →
    o = .completed ∧ asksOf (.call c) (trace ++ [(e, effects)]) = [.logout] ∧
      t.session = .unauthenticated ∧ t.Still ∧ t.UnchangedUntilLogin
  /-- Until it has returned, it can. -/
  goesOn : s.outcome? c = none → s.LogoutReturns c
  /-- And it does, on every fair course from here on; and there are such courses. -/
  ends : s.outcome? c = none →
    (∀ σ : Course, σ.state 0 = s → σ.Fair → σ.Sequential →
      ∃ n, (σ.state n).call? c = some ⟨.logout, .done .completed⟩) ∧
    ∃ σ : Course, σ.state 0 = s ∧ σ.Fair ∧ σ.Sequential

section
variable {s t u : State} {e : Event} {effects : List Effect} {c d p : Nat} {l l' trace : Trace}
  {phase : PollerPhase}

/-! ## The way to the return -/

theorem Unaided.append (h : Unaided l) (h' : Unaided l') : Unaided (l ++ l') := by
  intro x hx
  rcases List.mem_append.1 hx with hx | hx
  · exact h x hx
  · exact h' x hx

theorem unaided_singleton (hstart : e.isStart = false) (hanswer : ∀ task a, e ≠ .answer task a) :
    Unaided [(e, effects)] := by
  intro x hx
  cases List.mem_singleton.1 hx
  exact ⟨hstart, hanswer⟩

theorem Run.isSignalled (h : Run s l t) (hp : s.isSignalled p = true) : t.isSignalled p = true := by
  induction h with
  | nil => exact hp
  | cons step _ ih => exact ih ((State.Step.of_step? step).isSignalled hp)

theorem unaided_waited : Unaided [(.elapse (d - s.now), [])] := unaided_singleton rfl nofun

/-- A poller that was told to stop comes nearer to its end, with a time-out if it waits for the provider,
and no call takes part. -/
theorem exists_run_nearer (hp : s.pollerPhase? p = some phase) (signalled : s.isSignalled p = true)
    (hne : phase ≠ .finished) :
    ∃ l t phase', Run s l t ∧ Unaided l ∧ t.pollerPhase? p = some phase' ∧
      phase'.stepsToEnd < phase.stepsToEnd ∧ ∀ c, t.call? c = s.call? c := by
  have running := State.hasFinished_eq_false_of_phase hp hne
  obtain ⟨e, t, effects, hactor, hstart, hheard, htick, step⟩ | ⟨d, hd⟩ :=
    exists_step?_of_signalled running signalled
  · have hstep := State.Step.of_step? step
    obtain ⟨phase', hafter, hlt | ⟨-, heq⟩⟩ := Course.stepsToEnd_lt_or_tick hstep hactor hp
    · refine ⟨_, t, phase', .singleton step, unaided_singleton hstart ?_, hafter, hlt, fun c => ?_⟩
      · rintro task a rfl
        cases hheard
      · exact hstep.call?_of_ne_actor (by rw [hactor]; nofun)
    · exact absurd heq htick
  · obtain ⟨next, login, hasking⟩ := State.deadline?_poller_iff.1 hd
    obtain ⟨⟨_, signal⟩, hpoller, rfl⟩ := Option.map_eq_some_iff.1 hasking
    have hpoller' : (s.waited d).pollers[p]? = _ := hpoller
    have step := step?_timeout_poller hpoller' le_now_waited
    obtain ⟨phase', hafter, hlt | ⟨-, heq⟩⟩ :=
      Course.stepsToEnd_lt_or_tick (State.Step.of_step? step) rfl (s := s.waited d) hp
    · exact ⟨_, _, phase', run_waited.append (.singleton step),
        unaided_waited.append (unaided_singleton rfl nofun), hafter, hlt, fun _ => rfl⟩
    · cases heq

/-- So it can come to its end. -/
theorem exists_run_finished (hp : s.pollerPhase? p = some phase) (signalled : s.isSignalled p = true) :
    ∃ l t, Run s l t ∧ Unaided l ∧ t.hasFinished p = true ∧ ∀ c, t.call? c = s.call? c := by
  induction hn : phase.stepsToEnd using Nat.strongRecOn generalizing s phase with
  | ind n ih =>
    cases hrunning : s.hasFinished p with
    | true => exact ⟨[], s, .nil, nofun, hrunning, fun _ => rfl⟩
    | false =>
      obtain ⟨_, hphase, hne⟩ := State.hasFinished_eq_false_iff.1 hrunning
      cases hp.symm.trans hphase
      obtain ⟨l, t, phase', hl, unaided, hphase', hlt, hcalls⟩ := exists_run_nearer hp signalled hne
      obtain ⟨l', u, hl', unaided', hfinished, hcalls'⟩ :=
        ih _ (hn ▸ hlt) hphase' (hl.isSignalled signalled) rfl
      exact ⟨l ++ l', u, hl.append hl', unaided.append unaided', hfinished,
        fun c => (hcalls' c).trans (hcalls c)⟩

namespace State.LogoutReturns

theorem of_run (h : Run s l t) (unaided : Unaided l) (returns : t.LogoutReturns c) :
    s.LogoutReturns c := by
  obtain ⟨l', u, v, effects, hl', unaided', hreturn⟩ := returns
  exact ⟨l ++ l', u, v, effects, h.append hl', unaided.append unaided', hreturn⟩

theorem of_step? (step : s.step? (.proceed (.call c)) = some (t, effects)) (returns : t.LogoutReturns c) :
    s.LogoutReturns c :=
  returns.of_run (.singleton step) (unaided_singleton rfl nofun)

theorem of_clearing (call : s.call? c = some ⟨.logout, .clearing⟩) : s.LogoutReturns c := by
  refine ⟨[], s, _, _, .nil, nofun, ?_, step?_proceed_call call,
    call?_setCall_self (s := { s with session := _ }) call⟩
  rw [outcome?, call]
  rfl

theorem of_asking (call : s.call? c = some ⟨.logout, .asking d⟩) : s.LogoutReturns c := by
  have call' : (s.waited d).call? c = _ := call
  have step := step?_timeout_logout call' le_now_waited
  exact .of_run (run_waited.append (.singleton step))
    (unaided_waited.append (unaided_singleton rfl nofun)) (.of_clearing (call?_setCall_self call'))

theorem of_stopping (call : s.call? c = some ⟨.logout, .stopping p⟩) (signalled : s.isSignalled p = true) :
    s.LogoutReturns c := by
  obtain ⟨phase, hp⟩ := exists_phase_of_isSignalled signalled
  obtain ⟨l, t, hl, unaided, ended, hcalls⟩ := exists_run_finished hp signalled
  have call' := (hcalls c).trans call
  exact .of_run hl unaided (.of_step? (step?_of_stopped call' ended)
    (.of_asking (call?_setCall_self call')))

theorem of_turn (call : s.call? c = some ⟨.logout, .queued⟩) (turn : s.HasTurn c)
    (present : ∀ {p}, s.slot.poller = some p → p < s.pollers.length) : s.LogoutReturns c := by
  have step := step?_of_turn call turn
  cases hp : s.slot.poller with
  | none =>
    rw [takeTurn_logout_empty hp] at step
    exact .of_step? step (.of_asking (call?_setCall_self (s := s.leaveLine) call))
  | some p =>
    rw [takeTurn_logout_full hp] at step
    refine .of_step? step (.of_stopping (call?_setCall_self (s := s.leaveLine) call) ?_)
    exact isSignalled_signal_self (s := { s.leaveLine with slot := _ }) (present hp)

end State.LogoutReturns

section
variable {config : Config} {table : Navigation.Table}

/-- A call that is the only one open has its turn as soon as it is in line. -/
theorem Run.hasTurn {r : Request} (h : Run (.initial config table) trace s) (solo : s.Solo)
    (call : s.call? c = some ⟨r, .queued⟩) : s.HasTurn c := by
  have inv := h.orderly
  constructor
  · cases hholder : s.slot.holder with
    | none => rfl
    | some d =>
      obtain ⟨r', p, hd, -⟩ := (inv.holder d).1 hholder
      cases solo call rfl hd rfl
      cases call.symm.trans hd
  · cases hline : s.slot.line with
    | nil =>
      have hmem := (inv.line c).2 ⟨r, call⟩
      rw [hline] at hmem
      cases hmem
    | cons d rest =>
      obtain ⟨r', hd⟩ := (inv.line d).1 (hline ▸ List.mem_cons_self)
      cases solo call rfl hd rfl
      rfl

/-- A logout that is the only call open can return, wherever it stands. -/
theorem Run.logoutReturns {phase : CallPhase} (h : Run (.initial config table) trace s) (solo : s.Solo)
    (hc : s.call? c = some ⟨.logout, phase⟩) (isOpen : (⟨.logout, phase⟩ : Call).isOpen = true) :
    s.LogoutReturns c := by
  have acc := hc ▸ h.account c
  generalize asksOf (.call c) trace = asked, heardBy (.call c) trace = heard,
    contributionsOf (.call c) (.initial config table) trace = given at acc
  cases acc with
  | ready _ =>
    have step : s.step? (.proceed (.call c)) = some (s.enqueue c, []) := step?_proceed_call hc
    have solo' : (s.enqueue c).Solo := (State.Step.of_step? step).solo solo nofun
    have h' := h.append (.singleton step)
    have hc' : (s.enqueue c).call? c = _ := State.call?_setCall_self hc
    exact .of_step? step (.of_turn hc' (h'.hasTurn solo' hc') h'.orderly.present)
  | logoutWaits => exact .of_turn hc (h.hasTurn solo hc) h.orderly.present
  | logoutStops => exact .of_stopping hc (h.orderly.signalled hc)
  | logoutAsked => exact .of_asking hc
  | logoutHeard => exact .of_clearing hc
  | loggedOut => cases isOpen
  | userAsked asks | userHeard asks | userRefused asks | adopted asks | linedUp asks | replacing asks
  | loggedIn asks => cases asks

/-! ## Fair courses come to the return -/

/-- A logout comes nearer to its return with every step of its own. -/
theorem stepsToReturn_lt {phase : CallPhase} {call : Call} {asks : List Ask}
    (step : s.CallStep t c e ⟨.logout, phase⟩ call asks) :
    call.request = .logout ∧ call.phase.stepsToReturn < phase.stepsToReturn := by
  cases step with
  | lineUp | lineUpAdopted => exact ⟨rfl, (by decide : 4 < 5)⟩
  | adopt => exact ⟨rfl, (by decide : 5 < 6)⟩
  | askLogout => exact ⟨rfl, (by decide : 2 < 4)⟩
  | takeOut => exact ⟨rfl, (by decide : 3 < 4)⟩
  | askLogoutStopped | checks => exact ⟨rfl, (by decide : 2 < 3)⟩
  | hearLogout | hears => exact ⟨rfl, (by decide : 1 < 2)⟩
  | clear | judges => exact ⟨rfl, (by decide : 0 < 1)⟩
  | findsNone => exact ⟨rfl, (by decide : 0 < 3)⟩
  | askUser asks | hearUser asks | hearNoUser asks => cases asks
  | install _ logout | replace _ logout | installStopped logout => exact absurd rfl logout

/-- An open call that stayed where it is would be active, at the latest when the poller that it waits for
has finished. -/
theorem Course.exists_active {σ : Course} {n : Nat} {call : Call} (fair : σ.Fair) (seq : σ.Sequential)
    (h : Run (.initial config table) trace (σ.state n)) (solo : (σ.state n).Solo)
    (isOpen : call.isOpen = true) (stays : ∀ k, n ≤ k → (σ.state k).call? c = some call) :
    ∃ m, n ≤ m ∧ ∀ k, m ≤ k → (σ.state k).Active (.call c) := by
  obtain ⟨r, phase⟩ := call
  by_cases hstop : ∃ p, phase = .stopping p
  · obtain ⟨p, rfl⟩ := hstop
    obtain ⟨m, hm, finished⟩ := fair.exists_finished (h.orderly.signalled (stays n (Nat.le_refl n)))
    refine ⟨m, hm, fun k hk => Or.inl (canStep_of_stopped (stays k (Nat.le_trans hm hk)) ?_)⟩
    exact State.hasFinished_of_phase (pollerPhase?_finished finished hk)
  · refine ⟨n, Nat.le_refl n, fun k hk => ?_⟩
    obtain ⟨l, hl⟩ := σ.exists_run hk
    obtain hcan | ⟨hqueued, behind⟩ | ⟨p, heq, -⟩ | hd := canStep_of_isOpen (stays k hk) isOpen
    · exact Or.inl hcan
    · cases hqueued
      exact absurd ((h.append hl).hasTurn (σ.solo seq solo hk) (stays k hk)) behind
    · exact absurd ⟨p, heq⟩ hstop
    · exact Or.inr hd

/-- On a fair course on which calls do not overlap a logout returns. -/
theorem Course.exists_returned {σ : Course} {n : Nat} {phase : CallPhase} (fair : σ.Fair)
    (seq : σ.Sequential) (h : Run (.initial config table) trace (σ.state n)) (solo : (σ.state n).Solo)
    (hc : (σ.state n).call? c = some ⟨.logout, phase⟩) :
    ∃ k, (σ.state k).call? c = some ⟨.logout, .done .completed⟩ := by
  induction hsteps : phase.stepsToReturn using Nat.strongRecOn generalizing n trace phase with
  | ind steps ih =>
    by_cases hdone : ∃ o, phase = .done o
    · obtain ⟨o, rfl⟩ := hdone
      obtain ⟨rfl, -⟩ := (hc ▸ h.account c : Account (some _) _ _ _).of_logout_done
      exact ⟨n, hc⟩
    have isOpen : (⟨.logout, phase⟩ : Call).isOpen = true :=
      Call.isOpen_of_ne_done fun o heq => hdone ⟨o, heq⟩
    obtain ⟨k, hk, hck, hactor⟩ := fair.exists_event (P := fun s => s.call? c = some ⟨.logout, phase⟩) hc
      (fun k _ hck hother => ((State.Step.of_step? (σ.step k)).call?_of_ne_actor hother).trans hck)
      (exists_active fair seq h solo isOpen)
    obtain ⟨_, -, new, -⟩ | ⟨_, ⟨r, phase'⟩, _, hbefore, hafter, -, step⟩ :=
      (State.Step.of_step? (σ.step k)).callStep hactor
    · cases new.symm.trans hck
    · cases hbefore.symm.trans hck
      obtain ⟨hrequest, hlt⟩ := stepsToReturn_lt step
      cases hrequest
      have hle : n ≤ k + 1 := Nat.le_succ_of_le hk
      obtain ⟨l, hl⟩ := σ.exists_run hle
      exact ih _ (hsteps ▸ hlt) (h.append hl) (σ.solo seq solo hle) hafter rfl

/-! ## Nobody asks for the status -/

/-- In a still client with one open call at most nobody asks for the status of the session. -/
theorem Run.not_asked_status {task : Task} (h : Run (.initial config table) trace s) (solo : s.Solo)
    (still : s.Still) (step : s.step? e = some (t, effects)) : .asked task .status ∉ effects := by
  intro asked
  obtain ⟨opening, alive⟩ := (State.Step.of_step? step).of_asked_status asked
  cases task with
  | poller p =>
    obtain ⟨next, signalled, hp⟩ := State.checkPhase?_poller_iff.1 opening
    have running := State.hasFinished_eq_false_of_phase (State.pollerPhase?_of_getElem? hp) nofun
    cases (still.finished p).symm.trans running
  | call c =>
    obtain ⟨r, hc⟩ := State.checkPhase?_call_iff.1 opening
    have held : 0 < s.handles := Nat.pos_of_ne_zero fun hnone => by
      cases h.exclusive.closed hnone c _ hc
    -- A live session would be watched, or another call would be about to see to it.
    obtain ⟨p, _, hslot, -⟩ | ⟨d, resolves⟩ := h.watchful.covered alive (State.isHeld_of_handles held)
    · cases hslot.symm.trans still.empty
    · cases resolves with
      | linesUp call | replaces call | waits call | asksLogout call | clears call =>
        cases solo hc rfl call rfl
        cases hc.symm.trans call

theorem Run.logoutOrNew (h : Run s l t) (start : LogoutOrNew s []) : LogoutOrNew t l := by
  refine h.induction (P := fun l t => LogoutOrNew t l) start ?_
  intro l t e u effects _ ih step c call hc isOpen
  obtain rfl | ⟨call', hc', isOpen', hrequest⟩ := (State.Step.of_step? step).isOpen_before hc isOpen
  · exact Or.inr ⟨effects, List.mem_append_right _ (List.mem_singleton_self _)⟩
  · obtain hlogout | ⟨effects', hmem⟩ := ih hc' isOpen'
    · exact Or.inl (hrequest ▸ hlogout)
    · exact Or.inr ⟨effects', hrequest ▸ List.mem_append_left _ hmem⟩

/-- From the moment when nobody but a logout is open, a still client stays still until a login or a refresh
that is made later has succeeded. -/
theorem Run.still_or_loggedIn (h : Run (.initial config table) trace s) (still : s.Still)
    (start : LogoutOrNew s []) (hmid : Run s l t) :
    t.Still ∨ ∃ c r a effects, (.start c r, effects) ∈ l ∧ r.userAsk? = some a ∧
      t.call? c = some ⟨r, .done .completed⟩ := by
  refine hmid.induction (P := fun l t => t.Still ∨ ∃ c r a effects, (Event.start c r, effects) ∈ l ∧
    r.userAsk? = some a ∧ t.call? c = some ⟨r, .done .completed⟩) (Or.inl still) ?_
  intro l t e u effects hl ih step
  obtain still | ⟨c, r, a, effects', hmem, asks, hc⟩ := ih
  · obtain ⟨hpollers, hempty⟩ | ⟨c, r, adopted, done⟩ := (h.append hl).still_step still step
    · exact Or.inl (still.congr hpollers hempty)
    · obtain ⟨a, asks⟩ := adopted.1
      obtain ⟨phase, hc, isOpen⟩ := adopted.exists_open
      obtain rfl | ⟨effects', hmem⟩ := hl.logoutOrNew start hc isOpen
      · cases asks
      · exact Or.inr ⟨c, r, a, effects', List.mem_append_left _ hmem, asks, done⟩
  · exact Or.inr ⟨c, r, a, effects', List.mem_append_left _ hmem, asks,
      ((Run.singleton step).call?_of_done hc).1⟩

theorem Run.silentUntilLogin (h : Run (.initial config table) trace s) (solo : s.Solo) (still : s.Still)
    (start : LogoutOrNew s []) : s.SilentUntilLogin := by
  intro mid t e u effects task hmid seq step asked
  refine (h.still_or_loggedIn still start hmid).resolve_left fun still' => ?_
  exact (h.append hmid).not_asked_status (hmid.keeps_solo solo seq) still' step asked

/-- From the moment when a logout asks the provider. -/
theorem Run.silent_of_asked (h : Run (.initial config table) trace s) (solo : s.Solo) (still : t.Still)
    (step : s.step? e = some (t, effects)) (asked : .asked (.call c) .logout ∈ effects) :
    t.SilentUntilLogin := by
  have hstep := State.Step.of_step? step
  have asking := (hstep.of_asked_logout asked).2
  have solo' : t.Solo := hstep.solo solo fun hstart => by
    cases e with
    | start => cases hstep <;> first | (cases asked; done) | contradiction
    | _ => cases hstart
  refine (h.append (.singleton step)).silentUntilLogin solo' still fun {d call} hd isOpen => Or.inl ?_
  cases solo' asking rfl hd isOpen
  cases asking.symm.trans hd
  rfl

/-! ## Nothing changes -/

/-- A still client in which nobody has adopted leaves its pollers alone until somebody adopts. -/
theorem Run.pollers_of_no_login (h : Run (.initial config table) trace s) (still : s.Still)
    (nobody : ∀ c r, ¬s.Adopted c r) (hmid : Run s l t) (quiet : loginTimes l = []) :
    t.pollers = s.pollers ∧ t.slot.poller = none := by
  suffices (t.pollers = s.pollers ∧ t.slot.poller = none) ∧ ∀ c r, ¬t.Adopted c r from this.1
  refine hmid.induction (P := fun l t => loginTimes l = [] →
    (t.pollers = s.pollers ∧ t.slot.poller = none) ∧ ∀ c r, ¬t.Adopted c r)
    (fun _ => ⟨⟨rfl, still.empty⟩, nobody⟩) ?_ quiet
  intro l t e u effects hl ih step hnone
  rw [loginTimes_append, loginTimes_singleton, List.append_eq_nil_iff] at hnone
  obtain ⟨⟨hpollers, hempty⟩, nobody⟩ := ih hnone.1
  constructor
  · obtain ⟨hsame, hempty⟩ | ⟨c, r, adopted, -⟩ :=
      (h.append hl).still_step (still.congr hpollers hempty) step
    · exact ⟨hsame.trans hpollers, hempty⟩
    · exact absurd adopted (nobody c r)
  · intro c r adopted
    obtain adopted | ⟨time, rfl⟩ := (State.Step.of_step? step).adopted adopted
    · exact nobody c r adopted
    · cases hnone.2

/-! ## The return -/

/-- Whatever a logout hears, it goes on to clear the session. -/
theorem State.Step.of_heard_logout {phase : CallPhase} {a : Answer} (h : s.Step e t effects)
    (heard : e.heard? = some (.call c, a)) (hc : s.call? c = some ⟨.logout, phase⟩)
    (hphase : ∀ check, phase ≠ .checking check) : t.call? c = some ⟨.logout, .clearing⟩ := by
  obtain ⟨_, rfl, -⟩ | ⟨_, _, _, hs, ht, -, step⟩ := h.callStep (Event.actor?_of_heard? heard)
  · cases heard
  · cases hs.symm.trans hc
    cases step with
    | hearLogout => exact ht
    | hearUser asks | hearNoUser asks => cases asks
    | hears => exact absurd rfl (hphase _)
    | _ => cases heard

/-- A logout that returns has cleared the session in this step. -/
theorem Run.clearing_of_return {o : Outcome} (h : Run (.initial config table) trace s)
    (step : s.step? e = some (t, effects)) (before : s.outcome? c = none)
    (ht : t.call? c = some ⟨.logout, .done o⟩) : s.call? c = some ⟨.logout, .clearing⟩ := by
  have hstep := State.Step.of_step? step
  have hactor : e.actor? = some (.call c) := by
    refine Decidable.not_not.1 fun hother => ?_
    rw [State.outcome?, ← hstep.call?_of_ne_actor hother, ht] at before
    cases before
  obtain ⟨_, -, -, ht', -⟩ | ⟨_, _, _, hs, ht', -, move⟩ := hstep.callStep hactor
  · cases ht'.symm.trans ht
  · cases ht'.symm.trans ht
    cases move with
    | clear => exact hs
    | install _ logout | installStopped logout => exact absurd rfl logout
    | hearNoUser asks => cases asks
    | findsNone | judges => cases (hs ▸ h.account c : Account (some _) _ _ _).of_checking

theorem Run.unchangedUntilLogin (h : Run (.initial config table) trace s)
    (out : s.session = .unauthenticated) (still : s.Still)
    (closed : ∀ c call, s.call? c = some call → call.isOpen = false) : s.UnchangedUntilLogin := by
  intro mid t hmid quiet
  have nobody : ∀ c r, ¬s.Adopted c r := by
    intro c r adopted
    obtain ⟨phase, hc, isOpen⟩ := adopted.exists_open
    cases (closed c _ hc).symm.trans isOpen
  obtain ⟨hpollers, hempty⟩ := h.pollers_of_no_login still nobody hmid quiet
  exact ⟨(hmid.session_of_no_login out quiet).trans out.symm, hpollers, hempty.trans still.empty.symm⟩

/-- A logout that returns leaves no poller running and no call open. -/
theorem Run.still_of_return {o : Outcome} (h : Run (.initial config table) trace s)
    (seq : isSequential (.initial config table) trace = true) (step : s.step? e = some (t, effects))
    (before : s.outcome? c = none) (after : t.call? c = some ⟨.logout, .done o⟩) :
    t.Still ∧ ∀ d call, t.call? d = some call → call.isOpen = false := by
  have call := h.clearing_of_return step before after
  exact ⟨h.still_while_logout (h.solo seq) call rfl rfl ((h.emptied seq).clearing call) step,
    fun _ _ => (State.Step.of_step? step).closed_of_return (h.solo seq) call rfl after⟩

theorem Run.isSequential_of_unaided (h : Run s l t) (unaided : Unaided l) : isSequential s l = true := by
  induction h with
  | nil => rfl
  | cons step _ ih =>
    have hstart := (unaided _ List.mem_cons_self).1
    simp only [isSequential, step, hstart, ih fun x hx => unaided x (List.mem_cons_of_mem _ hx)]
    rfl

/-- While a logout is open there is a fair course, on which it returns unaided and nothing happens then. -/
theorem Run.exists_fair_course {phase : CallPhase} (h : Run (.initial config table) trace s)
    (seq : isSequential (.initial config table) trace = true) (hc : s.call? c = some ⟨.logout, phase⟩)
    (isOpen : (⟨.logout, phase⟩ : Call).isOpen = true) :
    ∃ σ : Course, σ.state 0 = s ∧ σ.Fair ∧ σ.Sequential := by
  obtain ⟨l, t, u, effects, hl, unaided, before, step, after⟩ := h.logoutReturns (h.solo seq) hc isOpen
  have seq' : isSequential (.initial config table) (trace ++ l) = true := by
    rw [isSequential_append h, seq, hl.isSequential_of_unaided unaided]
    rfl
  obtain ⟨still, closed⟩ := (h.append hl).still_of_return seq' step before after
  refine (hl.append (.singleton step)).exists_course (fun _ => Course.not_active closed still.finished) ?_
  exact fun x hx => (unaided.append (unaided_singleton (e := .proceed (.call c)) rfl nofun) x hx).1

/-- In a run in which calls do not overlap every logout is clean. -/
theorem logout_clean {phase : CallPhase} (h : Run (.initial config table) trace s)
    (seq : isSequential (.initial config table) trace = true)
    (hc : s.call? c = some ⟨.logout, phase⟩) : CleanLogout c trace s where
  asks {e t effects} step asked := by
    obtain ⟨still, still'⟩ := h.still_of_asked (h.solo seq) (h.emptied seq) step asked
    exact ⟨still, h.silent_of_asked (h.solo seq) still' step asked⟩
  heeds {e t effects a} step heard := by
    have call := (State.Step.of_step? step).of_heard_logout heard hc fun check hphase => by
      subst hphase
      cases (hc ▸ h.account c : Account (some _) _ _ _).of_checking
    exact ⟨_, _, step?_proceed_call call,
      State.call?_setCall_self (s := { t with session := _ }) call⟩
  returns {e t effects o} step before after := by
    obtain ⟨still, closed⟩ := h.still_of_return seq step before after
    have out := h.session_of_logout_returns step before after
    have h' := h.append (.singleton step)
    obtain ⟨rfl, hasked⟩ := (after ▸ h'.account c : Account (some _) _ _ _).of_logout_done
    exact ⟨rfl, hasked, out, still, h'.unchangedUntilLogin out still closed⟩
  goesOn before := h.logoutReturns (h.solo seq) hc (State.isOpen_of_outcome? hc before)
  ends before := by
    refine ⟨fun σ hstart fair seq' => ?_, h.exists_fair_course seq hc (State.isOpen_of_outcome? hc before)⟩
    subst hstart
    exact σ.exists_returned fair seq' h (h.solo seq) hc

/-- A logout that finds the poller in the middle of a check. The check ends the session, and the provider
does not answer the logout in time. -/
def logoutDuringCheck : List Event :=
  undisturbedLogin ++
    [.proceed (.poller 0), .elapse 30000000000, .tick 0, .proceed (.poller 0), .start 1 .logout,
      .proceed (.call 1), .proceed (.call 1), .answer (.poller 0) (.status .expired),
      .proceed (.poller 0), .proceed (.call 1), .elapse 30000000000, .timeout (.call 1)]

/-- Another one after it. -/
def logoutAgain : List Event :=
  [.start 2 .logout, .proceed (.call 2), .proceed (.call 2), .answer (.call 2) .loggedOut,
    .proceed (.call 2)]

theorem logout_clean_logoutDuringCheck :
    ∃ trace s t effects mid u, Run (.initial .standard .mainTabs) trace s ∧
      isSequential (.initial .standard .mainTabs) trace = true ∧ CleanLogout 1 trace s ∧
      s.session.status = .expired ∧ s.step? (.proceed (.call 1)) = some (t, effects) ∧
      t.session = .unauthenticated ∧ t.Still ∧
      Run t mid u ∧ mid.map Prod.fst = logoutAgain ∧ u.session = t.session ∧ u.pollers = t.pollers := by
  have hrun : ∃ x t effects y,
      (State.initial .standard .mainTabs).follow? logoutDuringCheck = some x ∧
      isSequential (.initial .standard .mainTabs) x.1 = true ∧ x.2.session.status = .expired ∧
      x.2.call? 1 = some ⟨.logout, .clearing⟩ ∧
      x.2.step? (.proceed (.call 1)) = some (t, effects) ∧
      t.call? 1 = some ⟨.logout, .done .completed⟩ ∧ t.follow? logoutAgain = some y ∧
      y.1.map Prod.fst = logoutAgain ∧ loginTimes y.1 = [] :=
    ⟨_, _, _, _, rfl, rfl, rfl, rfl, rfl, rfl, rfl, rfl, rfl⟩
  obtain ⟨⟨trace, s⟩, t, effects, ⟨mid, u⟩, hfollow, seq, expired, call, step, after, hmid, hevents,
    quiet⟩ := hrun
  have h := Run.of_follow? hfollow
  have clean := logout_clean h seq call
  have before : s.outcome? 1 = none := by
    rw [State.outcome?, call]
    rfl
  obtain ⟨-, -, out, still, unchanged⟩ := clean.returns step before after
  have hmid' := Run.of_follow? hmid
  obtain ⟨hsession, hpollers, -⟩ := unchanged mid u hmid' quiet
  exact ⟨trace, s, t, effects, mid, u, h, seq, clean, expired, step, out, still, hmid', hevents,
    hsession, hpollers⟩

end

end

end AdminConsole.Client
