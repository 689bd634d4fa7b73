import AdminConsole.Proofs.Client.Run

/-!
# The steps of a task

`CallStep` says how a call moves on in an event of its own, what it asks in it, and what becomes of the slot
if the call has its turn there; `PollerStep` says the same of a poller. Every step of a run is one for the
task that it belongs to (`Step.callStep`, `Step.pollerStep`), so that a statement about single calls or
pollers is a case analysis on these.
-/

namespace AdminConsole.Client.State

/-- How a call moves on from one phase to the next, and what it asks meanwhile, in a step from `s` to `t`. -/
inductive CallStep (s t : State) (c : Nat) : Event → Call → Call → List Ask → Prop where
  | askUser {r : Request} {a : Ask} (asks : r.userAsk? = some a) :
    CallStep s t c (.proceed (.call c)) ⟨r, .ready⟩ ⟨r, .asking s.newDeadline⟩ [a]
  | lineUp {r : Request} (asks : r.userAsk? = none) :
    CallStep s t c (.proceed (.call c)) ⟨r, .ready⟩ ⟨r, .queued⟩ []
  | lineUpAdopted {r : Request} : CallStep s t c (.proceed (.call c)) ⟨r, .adopted⟩ ⟨r, .queued⟩ []
  | tellPolling (turn : s.HasTurn c) :
    CallStep s t c (.proceed (.call c)) ⟨.polling, .queued⟩ ⟨.polling, .done (.polling s.isWatched)⟩ []
  | askLogout (turn : s.HasTurn c) (empty : s.slot.poller = none) :
    CallStep s t c (.proceed (.call c)) ⟨.logout, .queued⟩ ⟨.logout, .asking s.newDeadline⟩ [.logout]
  | takeOut {p : Nat} (turn : s.HasTurn c) (full : s.slot.poller = some p)
      (emptied : t.slot.poller = none) :
    CallStep s t c (.proceed (.call c)) ⟨.logout, .queued⟩ ⟨.logout, .stopping p⟩ []
  | install {r : Request} (turn : s.HasTurn c) (logout : r ≠ .logout) (polling : r ≠ .polling)
      (empty : s.slot.poller = none) (filled : t.slot.poller = some s.pollers.length) :
    CallStep s t c (.proceed (.call c)) ⟨r, .queued⟩ ⟨r, .done .completed⟩ []
  | replace {r : Request} {p : Nat} (turn : s.HasTurn c) (logout : r ≠ .logout) (polling : r ≠ .polling)
      (full : s.slot.poller = some p) (emptied : t.slot.poller = none) :
    CallStep s t c (.proceed (.call c)) ⟨r, .queued⟩ ⟨r, .stopping p⟩ []
  | askLogoutStopped {p : Nat} (ended : s.hasFinished p = true) :
    CallStep s t c (.proceed (.call c)) ⟨.logout, .stopping p⟩ ⟨.logout, .asking s.newDeadline⟩ [.logout]
  | installStopped {r : Request} {p : Nat} (logout : r ≠ .logout) (ended : s.hasFinished p = true)
      (filled : t.slot.poller = some s.pollers.length) :
    CallStep s t c (.proceed (.call c)) ⟨r, .stopping p⟩ ⟨r, .done .completed⟩ []
  | clear {r : Request} : CallStep s t c (.proceed (.call c)) ⟨r, .clearing⟩ ⟨r, .done .completed⟩ []
  | findsNone {r : Request} (dead : loginOf? s.session = none) :
    CallStep s t c (.proceed (.call c)) ⟨r, .checking .opening⟩ ⟨r, .done (.status s.session.status)⟩ []
  | checks {r : Request} {login : LoginTime} (alive : loginOf? s.session = some login) :
    CallStep s t c (.proceed (.call c)) ⟨r, .checking .opening⟩
      ⟨r, .checking (.asking login s.newDeadline)⟩ [.status]
  | judges {r : Request} {login : LoginTime} {reply : Reply RemoteStatus} :
    CallStep s t c (.proceed (.call c)) ⟨r, .checking (.judging login reply)⟩
      ⟨r, .done (.status (judge s.session login reply).status)⟩ []
  | adopt {r : Request} {user : UserData} {time : LoginTime} :
    CallStep s t c (.adopt c time) ⟨r, .applying user⟩ ⟨r, .adopted⟩ []
  | hearUser {r : Request} {a : Ask} {d : Nat} {e : Event} {user : UserData} (asks : r.userAsk? = some a)
      (heard : e.heard? = some (.call c, .user user)) (inTime : e.InTime s.now d) :
    CallStep s t c e ⟨r, .asking d⟩ ⟨r, .applying user⟩ []
  | hearNoUser {r : Request} {a : Ask} {d : Nat} {e : Event} {error : AuthError}
      (asks : r.userAsk? = some a) (heard : e.heard? = some (.call c, .failed error))
      (inTime : e.InTime s.now d) : CallStep s t c e ⟨r, .asking d⟩ ⟨r, .done (.failed error)⟩ []
  /-- Whether the provider confirms a logout or fails it. -/
  | hearLogout {d : Nat} {e : Event} {a : Answer} (heard : e.heard? = some (.call c, a))
      (inTime : e.InTime s.now d) : CallStep s t c e ⟨.logout, .asking d⟩ ⟨.logout, .clearing⟩ []
  | hears {r : Request} {login : LoginTime} {d : Nat} {e : Event} {a : Answer} {reply : Reply RemoteStatus}
      (heard : e.heard? = some (.call c, a)) (word : a.word? = some reply) (inTime : e.InTime s.now d) :
    CallStep s t c e ⟨r, .checking (.asking login d)⟩ ⟨r, .checking (.judging login reply)⟩ []

/-- How a poller moves on from one phase to the next, and what it asks meanwhile, in a state `s`. -/
inductive PollerStep (s : State) (p : Nat) : Event → PollerPhase → PollerPhase → List Ask → Prop where
  | settle {next : Nat} (first : firstTick? s.config.pollInterval s.now = some next) :
    PollerStep s p (.proceed (.poller p)) .spawned (.waiting next) []
  | settleFails (none : firstTick? s.config.pollInterval s.now = none) :
    PollerStep s p (.proceed (.poller p)) .spawned .finished []
  | tick {due next : Nat} (isDue : due ≤ s.now) (held : s.references ≠ 0)
      (later : nextTick? s.config.pollInterval due s.now = some next) :
    PollerStep s p (.tick p) (.waiting due) (.checking next .opening) []
  | abandon {due : Nat} (isDue : due ≤ s.now) (free : s.references = 0) :
    PollerStep s p (.tick p) (.waiting due) .finished []
  | tickFails {due : Nat} (isDue : due ≤ s.now)
      (none : nextTick? s.config.pollInterval due s.now = none) :
    PollerStep s p (.tick p) (.waiting due) .finished []
  | shutdown {next : Nat} (signalled : s.isSignalled p = true) :
    PollerStep s p (.shutdown p) (.waiting next) .finished []
  | findsNone {next : Nat} (dead : loginOf? s.session = none) :
    PollerStep s p (.proceed (.poller p)) (.checking next .opening) .finished []
  | checks {next : Nat} {login : LoginTime} (alive : loginOf? s.session = some login) :
    PollerStep s p (.proceed (.poller p)) (.checking next .opening)
      (.checking next (.asking login s.newDeadline)) [.status]
  | hears {next : Nat} {login : LoginTime} {d : Nat} {e : Event} {a : Answer} {reply : Reply RemoteStatus}
      (heard : e.heard? = some (.poller p, a)) (word : a.word? = some reply) (inTime : e.InTime s.now d) :
    PollerStep s p e (.checking next (.asking login d)) (.checking next (.judging login reply)) []
  | goesOn {next : Nat} {login : LoginTime} {reply : Reply RemoteStatus}
      (alive : (judge s.session login reply).isAlive = true) :
    PollerStep s p (.proceed (.poller p)) (.checking next (.judging login reply)) (.waiting next) []
  | ends {next : Nat} {login : LoginTime} {reply : Reply RemoteStatus}
      (dead : (judge s.session login reply).isAlive = false) :
    PollerStep s p (.proceed (.poller p)) (.checking next (.judging login reply)) .finished []

variable {s t : State} {e : Event} {effects : List Effect} {c p : Nat}

/-- In an event of its own a call is made, or takes one of its steps. -/
theorem Step.callStep (h : s.Step e t effects) (hactor : e.actor? = some (.call c)) :
    (∃ r, e = .start c r ∧ s.call? c = none ∧ t.call? c = some (.ofRequest r) ∧ effects = []) ∨
    ∃ call call' asks, s.call? c = some call ∧ t.call? c = some call' ∧
      asksIn (.call c) effects = asks ∧ s.CallStep t c e call call' asks := by
  have hstep : ∀ {x : State} {call phase asks}, s.call? c = some call → x.call? c = s.call? c →
      t.call? c = (x.setCall c phase).call? c → asksIn (.call c) effects = asks →
      s.CallStep t c e call { call with phase := phase } asks →
      ∃ call call' asks, s.call? c = some call ∧ t.call? c = some call' ∧
        asksIn (.call c) effects = asks ∧ s.CallStep t c e call call' asks := by
    intro x call phase asks hc hx ht hasks step
    exact ⟨call, _, asks, hc, ht.trans (call?_setCall_self (hx.trans hc)), hasks, step⟩
  cases h
  case start new =>
    cases hactor
    exact Or.inl ⟨_, rfl, new, (call?_append new).trans (if_pos rfl), rfl⟩
  case askUser call asks =>
    cases hactor
    exact Or.inr (hstep call rfl rfl asksIn_asked_self (.askUser asks))
  case lineUp call asks =>
    cases hactor
    exact Or.inr (hstep call rfl rfl rfl (.lineUp asks))
  case lineUpAdopted call =>
    cases hactor
    exact Or.inr (hstep call rfl rfl rfl .lineUpAdopted)
  case tellPolling call turn =>
    cases hactor
    exact Or.inr (hstep (x := s.leaveLine) call rfl rfl asksIn_wakeNext (.tellPolling turn))
  case askLogout call turn empty =>
    cases hactor
    refine Or.inr (hstep (x := s.leaveLine) call rfl rfl ?_ (.askLogout turn empty))
    rw [asksIn_append, asksIn_wakeNext, asksIn_asked_self]
    rfl
  case takeOut call turn full =>
    cases hactor
    refine Or.inr (hstep (x := s.leaveLine) call rfl rfl ?_ (.takeOut turn full rfl))
    rw [asksIn_append, asksIn_wakeNext]
    rfl
  case install call turn logout polling empty =>
    cases hactor
    exact Or.inr (hstep (x := s.leaveLine) call rfl rfl asksIn_install
      (.install turn logout polling empty rfl))
  case replace call turn logout polling full =>
    cases hactor
    exact Or.inr (hstep (x := s.leaveLine) call rfl rfl rfl (.replace turn logout polling full rfl))
  case askLogoutStopped call ended =>
    cases hactor
    refine Or.inr (hstep call rfl rfl ?_ (.askLogoutStopped ended))
    rw [asksIn_append, asksIn_logged, asksIn_asked_self]
    rfl
  case installStopped call logout ended =>
    cases hactor
    refine Or.inr (hstep call rfl rfl ?_ (.installStopped logout ended rfl))
    rw [asksIn_append, asksIn_logged, asksIn_install]
    rfl
  case clear call =>
    cases hactor
    exact Or.inr (hstep (x := { s with session := _ }) call rfl rfl asksIn_logged .clear)
  case callFindsNone call dead =>
    cases hactor
    exact Or.inr (hstep call rfl rfl rfl (.findsNone dead))
  case callChecks call alive =>
    cases hactor
    exact Or.inr (hstep call rfl rfl asksIn_asked_self (.checks alive))
  case callJudges call =>
    cases hactor
    exact Or.inr (hstep (x := { s with session := _ }) call rfl rfl asksIn_logged .judges)
  case adopt call =>
    cases hactor
    exact Or.inr (hstep (x := { s with session := _ }) call rfl rfl asksIn_adopt .adopt)
  case hearUser call asks heard inTime =>
    cases (Event.actor?_of_heard? heard).symm.trans hactor
    exact Or.inr (hstep call rfl rfl rfl (.hearUser asks heard inTime))
  case hearNoUser call asks heard inTime =>
    cases (Event.actor?_of_heard? heard).symm.trans hactor
    exact Or.inr (hstep call rfl rfl asksIn_failure (.hearNoUser asks heard inTime))
  case hearLogout call heard inTime | hearNoLogout call heard inTime =>
    cases (Event.actor?_of_heard? heard).symm.trans hactor
    exact Or.inr (hstep call rfl rfl rfl (.hearLogout heard inTime))
  case callHears call word heard inTime =>
    cases (Event.actor?_of_heard? heard).symm.trans hactor
    exact Or.inr (hstep call rfl rfl rfl (.hears heard word inTime))
  case pollerHears heard _ => cases (Event.actor?_of_heard? heard).symm.trans hactor
  all_goals cases hactor

/-- In an event of its own a poller takes one of its steps. -/
theorem Step.pollerStep (h : s.Step e t effects) (hactor : e.actor? = some (.poller p)) :
    ∃ phase phase' asks, s.pollerPhase? p = some phase ∧ t.pollerPhase? p = some phase' ∧
      asksIn (.poller p) effects = asks ∧ s.PollerStep p e phase phase' asks := by
  have hstep : ∀ {x : State} {poller phase asks}, s.pollers[p]? = some poller →
      x.pollerPhase? p = s.pollerPhase? p → t.pollerPhase? p = (x.setPoller p phase).pollerPhase? p →
      asksIn (.poller p) effects = asks → s.PollerStep p e poller.phase phase asks →
      ∃ phase phase' asks, s.pollerPhase? p = some phase ∧ t.pollerPhase? p = some phase' ∧
        asksIn (.poller p) effects = asks ∧ s.PollerStep p e phase phase' asks := by
    intro x poller phase asks hp hx ht hasks step
    have hs := pollerPhase?_of_getElem? hp
    refine ⟨poller.phase, phase, asks, hs, ?_, hasks, step⟩
    rw [ht, pollerPhase?_setPoller, if_pos rfl, hx, hs]
    rfl
  cases h
  case settle poller first =>
    cases hactor
    exact hstep poller rfl rfl rfl (.settle first)
  case settleFails poller none =>
    cases hactor
    exact hstep (x := s.noteFailed p) poller rfl pollerPhase?_endPoller asksIn_endPoller
      (.settleFails none)
  case tick poller isDue held later =>
    cases hactor
    exact hstep poller rfl rfl rfl (.tick isDue held later)
  case abandon poller isDue free later =>
    cases hactor
    exact hstep poller rfl pollerPhase?_endPoller asksIn_endPoller (.abandon isDue free)
  case tickFails poller isDue none =>
    cases hactor
    exact hstep (x := s.noteFailed p) poller rfl pollerPhase?_endPoller asksIn_endPoller
      (.tickFails isDue none)
  case shutdown poller =>
    cases hactor
    exact hstep poller rfl pollerPhase?_endPoller asksIn_endPoller
      (.shutdown (isSignalled_of_getElem? poller))
  case pollerFindsNone poller dead =>
    cases hactor
    exact hstep poller rfl pollerPhase?_endPoller asksIn_endPoller (.findsNone dead)
  case pollerChecks poller alive =>
    cases hactor
    exact hstep poller rfl rfl asksIn_asked_self (.checks alive)
  case pollerHears poller word heard inTime =>
    cases (Event.actor?_of_heard? heard).symm.trans hactor
    exact hstep poller rfl rfl rfl (.hears heard word inTime)
  case pollerGoesOn poller alive =>
    cases hactor
    refine hstep (x := { s with session := _ }) poller rfl pollerPhase?_letGo ?_ (.goesOn alive)
    rw [asksIn_append, asksIn_logged, asksIn_letGo]
    rfl
  case pollerEnds poller dead =>
    cases hactor
    exact hstep (x := { s with session := _ }) poller rfl pollerPhase?_endPoller asksIn_endPoller
      (.ends dead)
  case hearUser heard _ | hearNoUser heard _ | hearLogout heard _ | hearNoLogout heard _
      | callHears heard _ =>
    cases (Event.actor?_of_heard? heard).symm.trans hactor
  all_goals cases hactor

/-- A poller that was not there comes into the slot, and has not run yet. -/
theorem Step.pollerPhase?_of_none (h : s.Step e t effects) (hs : s.pollerPhase? p = none) :
    t.pollerPhase? p = none ∨ t.pollerPhase? p = some .spawned ∧ t.slot.poller = some p := by
  have hset : ∀ {x : State} {q phase}, x.pollerPhase? p = none →
      (x.setPoller q phase).pollerPhase? p = none := by
    intro x q phase hx
    rw [pollerPhase?_setPoller, hx]
    exact ite_self none
  have hnew : ∀ {x : State} {c}, x.pollerPhase? p = none →
      (x.install c).1.pollerPhase? p = none ∨
        (x.install c).1.pollerPhase? p = some .spawned ∧ some x.pollers.length = some p := by
    intro x c hx
    rw [pollerPhase?_install, hx]
    split
    · rename_i heq
      exact Or.inr ⟨rfl, congrArg some heq.symm⟩
    · exact Or.inl rfl
  cases h
  case install => exact hnew (x := s.leaveLine) hs
  case installStopped => exact hnew hs
  case settle | tick | pollerChecks | pollerHears => exact Or.inl (hset hs)
  case pollerGoesOn => exact Or.inl (pollerPhase?_letGo.trans (hset hs))
  case settleFails | tickFails | abandon | shutdown | pollerFindsNone | pollerEnds =>
    exact Or.inl (pollerPhase?_endPoller.trans (hset hs))
  case takeOut | replace => exact Or.inl (pollerPhase?_stopPoller.trans hs)
  case drop => exact Or.inl (pollerPhase?_letGo.trans hs)
  all_goals exact Or.inl hs

end AdminConsole.Client.State
