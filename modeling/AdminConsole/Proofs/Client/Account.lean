import AdminConsole.Proofs.Client.Contribution

/-!
# What a call has asked, heard and contributed

`Account` is the protocol of a call, phase by phase: what it has asked, heard and contributed when it
stands there. Every step keeps the account of every call (`Step.account`), so that what a call has done
can be read off its phase. A poller contributes once at most, and ends with it (`PollerAccount`).
-/

namespace AdminConsole.Client

open Session (Transition)

variable {s t u : State} {e : Event} {effects : List Effect} {task : Task} {c p : Nat} {l r : Trace}

/-! ## The protocol of a call -/

/-- How far a call has come, with what it has asked, heard and contributed until then. -/
inductive Account : Option Call → List Ask → List Answer → List Transition → Prop where
  | absent : Account none [] [] []
  | ready {r : Request} (other : r ≠ .check) : Account (some ⟨r, .ready⟩) [] [] []
  | userAsked {r : Request} {a : Ask} {d : Nat} (asks : r.userAsk? = some a) :
    Account (some ⟨r, .asking d⟩) [a] [] []
  | userHeard {r : Request} {a : Ask} {user : UserData} (asks : r.userAsk? = some a) :
    Account (some ⟨r, .applying user⟩) [a] [.user user] []
  | userRefused {r : Request} {a : Ask} {error : AuthError} (asks : r.userAsk? = some a) :
    Account (some ⟨r, .done (.failed error)⟩) [a] [.failed error] []
  | adopted {r : Request} {a : Ask} {user : UserData} {time : LoginTime} (asks : r.userAsk? = some a) :
    Account (some ⟨r, .adopted⟩) [a] [.user user] [.authenticate user.profile time]
  | linedUp {r : Request} {a : Ask} {user : UserData} {time : LoginTime} (asks : r.userAsk? = some a) :
    Account (some ⟨r, .queued⟩) [a] [.user user] [.authenticate user.profile time]
  | replacing {r : Request} {a : Ask} {user : UserData} {time : LoginTime} {p : Nat}
      (asks : r.userAsk? = some a) :
    Account (some ⟨r, .stopping p⟩) [a] [.user user] [.authenticate user.profile time]
  | loggedIn {r : Request} {a : Ask} {user : UserData} {time : LoginTime}
      (asks : r.userAsk? = some a) :
    Account (some ⟨r, .done .completed⟩) [a] [.user user] [.authenticate user.profile time]
  | logoutWaits : Account (some ⟨.logout, .queued⟩) [] [] []
  | logoutStops {p : Nat} : Account (some ⟨.logout, .stopping p⟩) [] [] []
  | logoutAsked {d : Nat} : Account (some ⟨.logout, .asking d⟩) [.logout] [] []
  | logoutHeard {a : Answer} : Account (some ⟨.logout, .clearing⟩) [.logout] [a] []
  | loggedOut {a : Answer} : Account (some ⟨.logout, .done .completed⟩) [.logout] [a] [.clear]
  | pollingWaits : Account (some ⟨.polling, .queued⟩) [] [] []
  | pollingTold {active : Bool} : Account (some ⟨.polling, .done (.polling active)⟩) [] [] []
  | checkOpens : Account (some ⟨.check, .checking .opening⟩) [] [] []
  | checkFindsNone {status : SessionStatus} : Account (some ⟨.check, .done (.status status)⟩) [] [] []
  | checkAsked {login : LoginTime} {d : Nat} :
    Account (some ⟨.check, .checking (.asking login d)⟩) [.status] [] []
  | checkHeard {login : LoginTime} {reply : Reply RemoteStatus} {a : Answer}
      (word : a.word? = some reply) :
    Account (some ⟨.check, .checking (.judging login reply)⟩) [.status] [a] []
  | checkKept {status : SessionStatus} {a : Answer} :
    Account (some ⟨.check, .done (.status status)⟩) [.status] [a] []
  | checkDemoted {status : SessionStatus} {a : Answer} :
    Account (some ⟨.check, .done (.status status)⟩) [.status] [a] [.expire]

namespace Account

variable {r : Request} {a : Ask} {call? : Option Call} {phase : CallPhase} {o : Outcome}
  {asks : List Ask} {heard : List Answer} {given : List Transition}

/-- A login or a refresh that has succeeded. -/
theorem of_loggedIn (acc : Account (some ⟨r, .done .completed⟩) asks heard given)
    (ask : r.userAsk? = some a) :
    asks = [a] ∧ ∃ user time, heard = [.user user] ∧ given = [.authenticate user.profile time] := by
  cases acc with
  | loggedIn h =>
    cases h.symm.trans ask
    exact ⟨rfl, _, _, rfl, rfl⟩
  | loggedOut => cases ask

/-- A login or a refresh, returned or not. -/
theorem of_userAsk (acc : Account (some ⟨r, phase⟩) asks heard given) (ask : r.userAsk? = some a) :
    given = [] ∨
    ∃ user time, heard = [.user user] ∧ given = [.authenticate user.profile time] := by
  cases acc
  case adopted | linedUp | replacing | loggedIn => exact Or.inr ⟨_, _, rfl, rfl⟩
  case loggedOut | checkDemoted => cases ask
  all_goals exact Or.inl rfl

theorem of_failed {error : AuthError} (acc : Account (some ⟨r, .done (.failed error)⟩) asks heard given) :
    given = [] := by
  cases acc; rfl

theorem of_loggedOut (acc : Account (some ⟨.logout, .done o⟩) asks heard given) :
    given = [.clear] := by
  cases acc with
  | loggedOut => rfl
  | userRefused h => cases h
  | loggedIn h => cases h

/-- A logout that has returned has asked the provider once. -/
theorem of_logout_done (acc : Account (some ⟨.logout, .done o⟩) asks heard given) :
    o = .completed ∧ asks = [.logout] := by
  cases acc with
  | loggedOut => exact ⟨rfl, rfl⟩
  | userRefused h => cases h
  | loggedIn h => cases h

theorem of_logout (acc : Account (some ⟨.logout, phase⟩) asks heard given) :
    given = [] ∨ given = [.clear] := by
  cases acc
  case loggedOut => exact Or.inr rfl
  case adopted h | linedUp h | replacing h | loggedIn h => cases h
  all_goals exact Or.inl rfl

theorem of_check (acc : Account (some ⟨.check, phase⟩) asks heard given) :
    given = [] ∨ given = [.expire] := by
  cases acc
  case checkDemoted => exact Or.inr rfl
  case adopted h | linedUp h | replacing h | loggedIn h => cases h
  all_goals exact Or.inl rfl

theorem of_polling (acc : Account (some ⟨.polling, phase⟩) asks heard given) : given = [] := by
  cases acc
  case adopted h | linedUp h | replacing h | loggedIn h => cases h
  all_goals rfl

theorem length_le_one (acc : Account call? asks heard given) : given.length ≤ 1 := by
  cases acc <;> simp

/-- What a call adopts is what it was given. -/
theorem of_authenticate_mem {profile : UserProfile} {time : LoginTime}
    (acc : Account call? asks heard given) (hmem : .authenticate profile time ∈ given) :
    ∃ user, user.profile = profile ∧ heard = [.user user] ∧ given = [.authenticate profile time] := by
  cases acc
  case adopted | linedUp | replacing | loggedIn =>
    cases List.mem_singleton.1 hmem
    exact ⟨_, rfl, rfl, rfl⟩
  case loggedOut | checkDemoted => cases List.mem_singleton.1 hmem
  all_goals cases hmem

/-- Only a login or a refresh adopts. -/
theorem of_applying {user : UserData} (acc : Account (some ⟨r, .applying user⟩) asks heard given) :
    ∃ a, r.userAsk? = some a := by
  cases acc with
  | userHeard ask => exact ⟨_, ask⟩

/-- Only a login, a refresh, a logout or a question waits for its turn at the slot. -/
theorem of_queued (acc : Account (some ⟨r, .queued⟩) asks heard given) :
    r = .logout ∨ r = .polling ∨ ∃ a, r.userAsk? = some a := by
  cases acc with
  | linedUp ask => exact Or.inr (Or.inr ⟨_, ask⟩)
  | logoutWaits => exact Or.inl rfl
  | pollingWaits => exact Or.inr (Or.inl rfl)

/-- Only a login, a refresh or a logout waits for a poller to finish. -/
theorem of_stopping {p : Nat} (acc : Account (some ⟨r, .stopping p⟩) asks heard given) :
    r = .logout ∨ ∃ a, r.userAsk? = some a := by
  cases acc with
  | replacing ask => exact Or.inr ⟨_, ask⟩
  | logoutStops => exact Or.inl rfl

/-- Only a login, a refresh or a logout waits for the provider otherwise than in a check. -/
theorem of_asking {d : Nat} (acc : Account (some ⟨r, .asking d⟩) asks heard given) :
    r = .logout ∨ ∃ a, r.userAsk? = some a := by
  cases acc with
  | userAsked ask => exact Or.inr ⟨_, ask⟩
  | logoutAsked => exact Or.inl rfl

theorem of_checking {check : CheckPhase} (acc : Account (some ⟨r, .checking check⟩) asks heard given) :
    r = .check := by
  cases acc <;> rfl

theorem of_clearing (acc : Account (some ⟨r, .clearing⟩) asks heard given) : r = .logout := by
  cases acc; rfl

/-- Only a logout clears the session, and returns with it. -/
theorem of_clear_mem (acc : Account call? asks heard given) (hmem : .clear ∈ given) :
    call? = some ⟨.logout, .done .completed⟩ ∧ given = [.clear] := by
  cases acc
  case loggedOut => exact ⟨rfl, rfl⟩
  case adopted | linedUp | replacing | loggedIn | checkDemoted => cases List.mem_singleton.1 hmem
  all_goals cases hmem

end Account

theorem contributed_proceed_call {call : Call} (hc : s.call? c = some call) :
    s.contributed (.proceed (.call c)) (.call c) = (call.phase.transition? s.session).toList := by
  unfold State.contributed
  rw [contribution?_proceed_call hc]
  cases call.phase.transition? s.session <;> simp [Contribution.by?]

section
variable {asks asks' : List Ask} {heard : List Answer} {given : List Transition} {call call' : Call}

/-- The account of a call that goes on by itself. -/
theorem account_of_proceed (hs : s.call? c = some call) (ht : t.call? c = some call')
    (hasks : asksIn (.call c) effects = asks')
    (next : Account (some call) asks heard given →
      Account (some call') (asks ++ asks') heard (given ++ (call.phase.transition? s.session).toList))
    (acc : Account (s.call? c) asks heard given) :
    Account (t.call? c) (asks ++ asksIn (.call c) effects)
      (heard ++ (heardIn (.call c) (.proceed (.call c))).toList)
      (given ++ s.contributed (.proceed (.call c)) (.call c)) := by
  rw [hs] at acc
  rw [ht, hasks, contributed_proceed_call hs]
  show Account _ _ (heard ++ []) _
  rw [List.append_nil]
  exact next acc

/-- The account of a call that hears an answer. -/
theorem account_of_heard {a : Answer} (hheard : e.heard? = some (.call c, a)) (hs : s.call? c = some call)
    (ht : t.call? c = some call') (hasks : asksIn (.call c) effects = [])
    (next : Account (some call) asks heard given → Account (some call') asks (heard ++ [a]) given)
    (acc : Account (s.call? c) asks heard given) :
    Account (t.call? c) (asks ++ asksIn (.call c) effects) (heard ++ (heardIn (.call c) e).toList)
      (given ++ s.contributed e (.call c)) := by
  rw [hs] at acc
  rw [ht, hasks, heardIn_of_heard? hheard, contributed_of_none (contribution?_of_heard hheard),
    List.append_nil, List.append_nil]
  exact next acc

/-- Every step keeps the account of every call. -/
theorem State.Step.account (h : s.Step e t effects) (acc : Account (s.call? c) asks heard given) :
    Account (t.call? c) (asks ++ asksIn (.call c) effects) (heard ++ (heardIn (.call c) e).toList)
      (given ++ s.contributed e (.call c)) := by
  by_cases hother : e.actor? ≠ some (.call c)
  · rw [h.call?_of_ne_actor hother, h.asksIn_of_ne_actor hother, heardIn_of_ne_actor hother,
      contributed_of_ne_actor hother]
    simpa using acc
  have hactor := Decidable.not_not.1 hother
  cases h
  case start r held new =>
    cases hactor
    rw [new] at acc
    cases acc
    rw [State.call?_append new, if_pos rfl]
    unfold Call.ofRequest
    by_cases hr : r = .check
    · subst hr
      exact .checkOpens
    · rw [if_neg hr]
      exact .ready hr
  case askUser call hask =>
    cases hactor
    refine account_of_proceed call (State.call?_setCall_self call) asksIn_asked_self (fun acc => ?_) acc
    cases acc
    exact .userAsked hask
  case lineUp r call hask =>
    cases hactor
    refine account_of_proceed call (State.call?_setCall_self call) asksIn_nil (fun acc => ?_) acc
    cases acc
    cases r with
    | logout => exact .logoutWaits
    | polling => exact .pollingWaits
    | check => contradiction
    | login credentials => cases hask
    | refresh => cases hask
  case lineUpAdopted call =>
    cases hactor
    refine account_of_proceed call (State.call?_setCall_self call) asksIn_nil (fun acc => ?_) acc
    cases acc
    case adopted asks => exact .linedUp asks
  case tellPolling call turn =>
    cases hactor
    have call' : s.leaveLine.call? c = _ := call
    refine account_of_proceed call (State.call?_setCall_self call') asksIn_wakeNext (fun acc => ?_) acc
    cases acc
    case linedUp asks => cases asks
    case pollingWaits => exact .pollingTold
  case askLogout call turn empty =>
    cases hactor
    have call' : s.leaveLine.call? c = _ := call
    have hasks : asksIn (.call c) (s.leaveLine.wakeNext ++ [.asked (.call c) .logout]) = [.logout] := by
      rw [asksIn_append, asksIn_wakeNext, asksIn_asked_self]; rfl
    refine account_of_proceed call (State.call?_setCall_self call') hasks (fun acc => ?_) acc
    cases acc
    case linedUp asks => cases asks
    case logoutWaits => exact .logoutAsked
  case takeOut p call turn full =>
    cases hactor
    have call' : s.leaveLine.call? c = _ := call
    have hasks : asksIn (.call c) (s.leaveLine.wakeNext ++ [.woken (.poller p)]) = [] := by
      rw [asksIn_append, asksIn_wakeNext]; rfl
    refine account_of_proceed call (State.call?_setCall_self call') hasks (fun acc => ?_) acc
    cases acc
    case linedUp asks => cases asks
    case logoutWaits => exact .logoutStops
  case install call turn logout polling empty =>
    cases hactor
    have call' : s.leaveLine.call? c = _ := call
    refine account_of_proceed call (State.call?_setCall_self call') asksIn_install (fun acc => ?_) acc
    cases acc
    case linedUp asks => exact .loggedIn asks
    case logoutWaits => contradiction
    case pollingWaits => contradiction
  case replace call turn logout polling full =>
    cases hactor
    have call' : s.leaveLine.call? c = _ := call
    refine account_of_proceed call (State.call?_setCall_self call') rfl (fun acc => ?_) acc
    cases acc
    case linedUp asks => exact .replacing asks
    case logoutWaits => contradiction
    case pollingWaits => contradiction
  case askLogoutStopped p call ended =>
    cases hactor
    have hasks : asksIn (.call c) (logged (s.joinEvents p) ++ [.asked (.call c) .logout]) = [.logout] := by
      rw [asksIn_append, asksIn_logged, asksIn_asked_self]; rfl
    refine account_of_proceed call (State.call?_setCall_self call) hasks (fun acc => ?_) acc
    cases acc
    case replacing asks => cases asks
    case logoutStops => exact .logoutAsked
  case installStopped p r call logout ended =>
    cases hactor
    have hasks : asksIn (.call c) (logged (s.joinEvents p) ++ (s.install c).2) = [] := by
      rw [asksIn_append, asksIn_logged, asksIn_install]; rfl
    refine account_of_proceed call (State.call?_setCall_self call) hasks (fun acc => ?_) acc
    cases acc
    case replacing asks => exact .loggedIn asks
    case logoutStops => contradiction
  case clear call =>
    cases hactor
    have call' : ({ s with session := s.session.apply .clear } : State).call? c = _ := call
    refine account_of_proceed call (State.call?_setCall_self call') asksIn_logged (fun acc => ?_) acc
    cases acc
    exact .loggedOut
  case callFindsNone call dead =>
    cases hactor
    refine account_of_proceed call (State.call?_setCall_self call) asksIn_nil (fun acc => ?_) acc
    cases acc
    exact .checkFindsNone
  case callChecks call alive =>
    cases hactor
    refine account_of_proceed call (State.call?_setCall_self call) asksIn_asked_self (fun acc => ?_) acc
    cases acc
    exact .checkAsked
  case callJudges login reply call =>
    cases hactor
    have call' : ({ s with session := judge s.session login reply } : State).call? c = _ := call
    refine account_of_proceed call (State.call?_setCall_self call') asksIn_logged (fun acc => ?_) acc
    cases acc
    show Account _ _ _ ([] ++ Option.toList (if demotes s.session login reply then _ else none))
    cases demotes s.session login reply
    · exact .checkKept
    · exact .checkDemoted
  case adopt call =>
    cases hactor
    rw [call] at acc
    rw [State.call?_adopt, State.call?_setCall_self call, asksIn_adopt,
      contributed_of_some (contribution?_adopt call)]
    cases acc
    case userHeard asks => exact .adopted asks
  case hearUser call asks heard _ =>
    cases (Event.actor?_of_heard? heard).symm.trans hactor
    refine account_of_heard heard call (State.call?_setCall_self call) asksIn_nil (fun acc => ?_) acc
    cases acc
    case userAsked asks => exact .userHeard asks
    case logoutAsked => cases asks
  case hearNoUser call asks heard _ =>
    cases (Event.actor?_of_heard? heard).symm.trans hactor
    refine account_of_heard heard call (State.call?_setCall_self call) asksIn_failure (fun acc => ?_) acc
    cases acc
    case userAsked asks => exact .userRefused asks
    case logoutAsked => cases asks
  case hearLogout call heard _ | hearNoLogout call heard _ =>
    cases (Event.actor?_of_heard? heard).symm.trans hactor
    refine account_of_heard heard call (State.call?_setCall_self call) rfl (fun acc => ?_) acc
    cases acc
    case userAsked asks => cases asks
    case logoutAsked => exact .logoutHeard
  case callHears call word heard _ =>
    cases (Event.actor?_of_heard? heard).symm.trans hactor
    refine account_of_heard heard call (State.call?_setCall_self call) asksIn_nil (fun acc => ?_) acc
    cases acc
    exact .checkHeard word
  case pollerHears heard _ => cases (Event.actor?_of_heard? heard).symm.trans hactor
  all_goals cases hactor

end

/-! ## The protocol of a poller -/

theorem contributed_proceed_poller {poller : Poller} (hp : s.pollers[p]? = some poller) :
    s.contributed (.proceed (.poller p)) (.poller p) = (poller.phase.transition? s.session).toList := by
  unfold State.contributed
  rw [contribution?_proceed_poller hp]
  cases poller.phase.transition? s.session <;> simp [Contribution.by?]

/-- A poller that contributes something ends with it. -/
theorem State.Step.contributed_poller (h : s.Step e t effects) :
    s.contributed e (.poller p) = [] ∨
    s.contributed e (.poller p) = [.expire] ∧ t.pollerPhase? p = some .finished := by
  by_cases hother : e.actor? ≠ some (.poller p)
  · exact Or.inl (contributed_of_ne_actor hother)
  have hactor := Decidable.not_not.1 hother
  cases h
  case pollerEnds login reply poller _ =>
    cases hactor
    rw [contributed_proceed_poller poller]
    show Option.toList (if demotes s.session login reply then _ else none) = [] ∨
      Option.toList (if demotes s.session login reply then _ else none) = [Transition.expire] ∧ _
    cases demotes s.session login reply
    · exact Or.inl rfl
    · refine Or.inr ⟨rfl, ?_⟩
      rw [State.pollerPhase?_endPoller, State.pollerPhase?_setPoller, if_pos rfl,
        State.pollerPhase?_withSession, State.pollerPhase?_of_getElem? poller]
      rfl
  case pollerGoesOn login reply poller alive =>
    cases hactor
    rw [contributed_proceed_poller poller]
    show Option.toList (if demotes s.session login reply then _ else none) = [] ∨ _
    by_cases hdemotes : demotes s.session login reply = true
    · rw [isAlive_judge_of_demotes hdemotes] at alive
      cases alive
    · rw [if_neg hdemotes]
      exact Or.inl rfl
  case settle poller _ | settleFails poller _ | pollerFindsNone poller _ | pollerChecks poller _ =>
    cases hactor
    rw [contributed_proceed_poller poller]
    exact Or.inl rfl
  case hearUser heard _ | hearNoUser heard _ | hearLogout heard _ | hearNoLogout heard _
      | callHears heard _ | pollerHears heard _ =>
    exact Or.inl (contributed_of_none (contribution?_of_heard heard))
  case tick | abandon | tickFails | shutdown => exact Or.inl (contributed_of_none rfl)
  all_goals cases hactor

/-- A poller has contributed nothing, or the end of the session that ended it. -/
def PollerAccount (phase? : Option PollerPhase) (given : List Transition) : Prop :=
  given = [] ∨ given = [.expire] ∧ phase? = some .finished

/-- Every step keeps the account of every poller. -/
theorem State.Step.pollerAccount {given : List Transition} (h : s.Step e t effects)
    (acc : PollerAccount (s.pollerPhase? p) given) :
    PollerAccount (t.pollerPhase? p) (given ++ s.contributed e (.poller p)) := by
  obtain rfl | ⟨rfl, hfinished⟩ := acc
  · exact h.contributed_poller
  · have hother := h.actor?_ne_of_finished hfinished
    rw [contributed_of_ne_actor hother, h.pollerPhase?_of_ne_actor hother hfinished]
    exact Or.inr ⟨rfl, rfl⟩

/-! ## Runs from the start -/

section
variable {config : Config} {table : Navigation.Table} {trace : Trace}

/-- A call that was made in a run has the account of a call from its first step to its last. -/
theorem Run.account_of_new (h : Run s trace t) (new : s.call? c = none) :
    Account (t.call? c) (asksOf (.call c) trace) (heardBy (.call c) trace)
      (contributionsOf (.call c) s trace) := by
  refine h.induction (P := fun trace t => Account (t.call? c) (asksOf (.call c) trace)
    (heardBy (.call c) trace) (contributionsOf (.call c) s trace)) (new ▸ .absent) ?_
  intro l t e u effects hl acc step
  rw [asksOf_append, asksOf_singleton, heardBy_append, heardBy_singleton, contributionsOf_step hl step]
  exact (State.Step.of_step? step).account acc

theorem Run.account (h : Run (.initial config table) trace t) (c : Nat) :
    Account (t.call? c) (asksOf (.call c) trace) (heardBy (.call c) trace)
      (contributionsOf (.call c) (.initial config table) trace) :=
  h.account_of_new rfl

theorem Run.pollerAccount (h : Run (.initial config table) trace t) (p : Nat) :
    PollerAccount (t.pollerPhase? p) (contributionsOf (.poller p) (.initial config table) trace) := by
  refine h.induction (P := fun trace t => PollerAccount (t.pollerPhase? p)
    (contributionsOf (.poller p) _ trace)) (Or.inl rfl) ?_
  intro l t e u effects hl acc step
  rw [contributionsOf_step hl step]
  exact (State.Step.of_step? step).pollerAccount acc

/-- A call that is there was made earlier. -/
theorem Run.start_mem {call : Call} (h : Run (.initial config table) trace t)
    (hc : t.call? c = some call) : ∃ effects, (.start c call.request, effects) ∈ trace := by
  refine h.induction (P := fun trace t => ∀ call, t.call? c = some call →
    ∃ effects, (Event.start c call.request, effects) ∈ trace) nofun ?_ call hc
  intro l t e u effects _ ih step call hu
  obtain rfl | ⟨call', ht, hrequest⟩ := (State.Step.of_step? step).call?_before hu
  · exact ⟨effects, by simp⟩
  · obtain ⟨effects', hmem⟩ := ih call' ht
    exact ⟨effects', by simp [← hrequest, hmem]⟩

end

end AdminConsole.Client
