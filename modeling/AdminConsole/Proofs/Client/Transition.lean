import AdminConsole.Proofs.Client.Lookup

/-!
# What a step can do

`State.Step` lists the steps of a client case by case, each with its gate and with the state that it
leads to, and `Step.of_step?` says that `step?` takes no others. A statement about all steps is proved
by cases on `State.Step`.

Most steps belong to a task, which `Event.actor?` names, and leave the calls and the phases of the
pollers of all other tasks alone (`Step.call?_of_ne_actor`, `Step.pollerPhase?_of_ne_actor`).
-/

namespace AdminConsole.Client

/-! ## Reading an event -/

/-- The task that an event belongs to. -/
def Event.actor? : Event → Option Task
  | .start c _ | .adopt c _ => some (.call c)
  | .proceed t | .answer t _ | .timeout t => some t
  | .tick p | .shutdown p => some (.poller p)
  | .elapse _ | .clone | .drop | .notify _ => none

/-- What a task hears in an event. A request that has timed out counts as one that failed. -/
def Event.heard? : Event → Option (Task × Answer)
  | .answer t a => some (t, a)
  | .timeout t => some (t, .failed .timeout)
  | _ => none

theorem Event.actor?_of_heard? {e : Event} {task : Task} {a : Answer} (h : e.heard? = some (task, a)) :
    e.actor? = some task := by
  cases e <;> cases h <;> rfl

/-- Whether an event comes when it may: a time-out from the deadline on, anything else always. -/
def Event.InTime (now deadline : Nat) : Event → Prop
  | .timeout _ => deadline ≤ now
  | _ => True

/-- The provider's word on a session, if the answer is one. -/
def Answer.word? : Answer → Option (Reply RemoteStatus)
  | .status r => some (.ok r)
  | .failed e => some (.error e)
  | _ => none

/-- What a login or a refresh asks for. -/
def Request.userAsk? : Request → Option Ask
  | .login credentials => some (.login credentials)
  | .refresh => some .userData
  | _ => none

/-- What a login or a refresh writes to the log when it fails. -/
def Request.failure (e : AuthError) : Request → List Effect
  | .login credentials => [.logged (.loginFailed credentials.username e)]
  | _ => []

/-- It is the call's turn at the slot. -/
def State.HasTurn (s : State) (c : Nat) : Prop :=
  s.slot.holder = none ∧ s.slot.line.head? = some c

/-! ## The steps -/

namespace State

/-- The steps of a client in a state `s`: the event, the state after it and its effects. -/
inductive Step (s : State) : Event → State → List Effect → Prop where
  /-- A call is made. Gate: there is a handle, and the number is new. -/
  | start {c : Nat} {r : Request} (held : 0 < s.handles) (new : s.call? c = none) :
    Step s (.start c r) { s with calls := s.calls ++ [(c, .ofRequest r)] } []
  /-- A login or a refresh asks for the user's data. -/
  | askUser {c : Nat} {r : Request} {a : Ask} (call : s.call? c = some ⟨r, .ready⟩)
      (asks : r.userAsk? = some a) :
    Step s (.proceed (.call c)) (s.setCall c (.asking s.newDeadline)) [.asked (.call c) a]
  /-- Any other call lines up for the slot. -/
  | lineUp {c : Nat} {r : Request} (call : s.call? c = some ⟨r, .ready⟩) (asks : r.userAsk? = none) :
    Step s (.proceed (.call c)) (s.enqueue c) []
  /-- A login or a refresh lines up for the slot once it has applied the user's data. -/
  | lineUpAdopted {c : Nat} {r : Request} (call : s.call? c = some ⟨r, .adopted⟩) :
    Step s (.proceed (.call c)) (s.enqueue c) []
  /-- A question about the poller is answered. -/
  | tellPolling {c : Nat} (call : s.call? c = some ⟨.polling, .queued⟩) (turn : s.HasTurn c) :
    Step s (.proceed (.call c)) (s.leaveLine.setCall c (.done (.polling s.isWatched)))
      s.leaveLine.wakeNext
  /-- A logout that finds the slot empty asks the provider at once. -/
  | askLogout {c : Nat} (call : s.call? c = some ⟨.logout, .queued⟩) (turn : s.HasTurn c)
      (empty : s.slot.poller = none) :
    Step s (.proceed (.call c)) (s.leaveLine.setCall c (.asking s.newDeadline))
      (s.leaveLine.wakeNext ++ [.asked (.call c) .logout])
  /-- A logout takes the poller out of the slot and leaves the slot to the next call. -/
  | takeOut {c p : Nat} (call : s.call? c = some ⟨.logout, .queued⟩) (turn : s.HasTurn c)
      (full : s.slot.poller = some p) :
    Step s (.proceed (.call c)) (s.leaveLine.stopPoller c p)
      (s.leaveLine.wakeNext ++ [.woken (.poller p)])
  /-- A login or a refresh that finds the slot empty puts its poller there. -/
  | install {c : Nat} {r : Request} (call : s.call? c = some ⟨r, .queued⟩) (turn : s.HasTurn c)
      (logout : r ≠ .logout) (polling : r ≠ .polling) (empty : s.slot.poller = none) :
    Step s (.proceed (.call c)) (s.leaveLine.install c).1 (s.leaveLine.install c).2
  /-- A login or a refresh keeps the slot while it waits for the previous poller to finish. -/
  | replace {c p : Nat} {r : Request} (call : s.call? c = some ⟨r, .queued⟩) (turn : s.HasTurn c)
      (logout : r ≠ .logout) (polling : r ≠ .polling) (full : s.slot.poller = some p) :
    Step s (.proceed (.call c))
      ({ s.leaveLine with slot := { s.leaveLine.slot with holder := some c } }.stopPoller c p)
      [.woken (.poller p)]
  /-- A logout goes on when the poller it took out has finished. -/
  | askLogoutStopped {c p : Nat} (call : s.call? c = some ⟨.logout, .stopping p⟩)
      (ended : s.hasFinished p = true) :
    Step s (.proceed (.call c)) (s.setCall c (.asking s.newDeadline))
      (logged (s.joinEvents p) ++ [.asked (.call c) .logout])
  /-- A login or a refresh goes on when the previous poller has finished. -/
  | installStopped {c p : Nat} {r : Request} (call : s.call? c = some ⟨r, .stopping p⟩)
      (logout : r ≠ .logout) (ended : s.hasFinished p = true) :
    Step s (.proceed (.call c)) (s.install c).1 (logged (s.joinEvents p) ++ (s.install c).2)
  /-- A logout clears the session. -/
  | clear {c : Nat} {r : Request} (call : s.call? c = some ⟨r, .clearing⟩) :
    Step s (.proceed (.call c))
      ({ s with session := s.session.apply .clear }.setCall c (.done .completed))
      (logged (s.session.events .clear))
  /-- A check of a call finds no live session. -/
  | callFindsNone {c : Nat} {r : Request} (call : s.call? c = some ⟨r, .checking .opening⟩)
      (dead : loginOf? s.session = none) :
    Step s (.proceed (.call c)) (s.setCall c (.done (.status s.session.status))) []
  /-- A check of a call asks about the login it finds. -/
  | callChecks {c : Nat} {r : Request} {login : LoginTime}
      (call : s.call? c = some ⟨r, .checking .opening⟩) (alive : loginOf? s.session = some login) :
    Step s (.proceed (.call c)) (s.setCall c (.checking (.asking login s.newDeadline)))
      [.asked (.call c) .status]
  /-- A check of a call acts on what it has heard. -/
  | callJudges {c : Nat} {r : Request} {login : LoginTime} {reply : Reply RemoteStatus}
      (call : s.call? c = some ⟨r, .checking (.judging login reply)⟩) :
    Step s (.proceed (.call c))
      ({ s with session := judge s.session login reply }.setCall c
        (.done (.status (judge s.session login reply).status)))
      (logged (judgeEvents s.session login reply))
  /-- The user's data become the session. -/
  | adopt {c : Nat} {r : Request} {user : UserData} {time : LoginTime}
      (call : s.call? c = some ⟨r, .applying user⟩) :
    Step s (.adopt c time) (s.adopt c user time).1 (s.adopt c user time).2
  /-- A login or a refresh is given the user's data. -/
  | hearUser {c d : Nat} {r : Request} {a : Ask} {e : Event} {user : UserData}
      (call : s.call? c = some ⟨r, .asking d⟩) (asks : r.userAsk? = some a)
      (heard : e.heard? = some (.call c, .user user)) (inTime : e.InTime s.now d) :
    Step s e (s.setCall c (.applying user)) []
  /-- A login or a refresh fails. -/
  | hearNoUser {c d : Nat} {r : Request} {a : Ask} {e : Event} {error : AuthError}
      (call : s.call? c = some ⟨r, .asking d⟩) (asks : r.userAsk? = some a)
      (heard : e.heard? = some (.call c, .failed error)) (inTime : e.InTime s.now d) :
    Step s e (s.setCall c (.done (.failed error))) (r.failure error)
  /-- The provider confirms a logout. -/
  | hearLogout {c d : Nat} {e : Event} (call : s.call? c = some ⟨.logout, .asking d⟩)
      (heard : e.heard? = some (.call c, .loggedOut)) (inTime : e.InTime s.now d) :
    Step s e (s.setCall c .clearing) []
  /-- The provider fails a logout, which goes on all the same. -/
  | hearNoLogout {c d : Nat} {e : Event} {error : AuthError}
      (call : s.call? c = some ⟨.logout, .asking d⟩)
      (heard : e.heard? = some (.call c, .failed error)) (inTime : e.InTime s.now d) :
    Step s e (s.setCall c .clearing) [.logged (.logoutRequestFailed error)]
  /-- A check of a call hears the provider's word. -/
  | callHears {c d : Nat} {r : Request} {login : LoginTime} {e : Event} {a : Answer}
      {reply : Reply RemoteStatus} (call : s.call? c = some ⟨r, .checking (.asking login d)⟩)
      (heard : e.heard? = some (.call c, a)) (word : a.word? = some reply) (inTime : e.InTime s.now d) :
    Step s e (s.setCall c (.checking (.judging login reply))) []
  /-- A poller runs for the first time. -/
  | settle {p next : Nat} {signalled : Bool} (poller : s.pollers[p]? = some ⟨.spawned, signalled⟩)
      (first : firstTick? s.config.pollInterval s.now = some next) :
    Step s (.proceed (.poller p)) (s.setPoller p (.waiting next))
      [.logged (.pollerStarted s.config.pollInterval.duration)]
  /-- A poller that runs for the first time has no first tick, and fails. -/
  | settleFails {p : Nat} {signalled : Bool} (poller : s.pollers[p]? = some ⟨.spawned, signalled⟩)
      (none : firstTick? s.config.pollInterval s.now = none) :
    Step s (.proceed (.poller p))
      ((s.noteFailed p).endPoller p [.pollerStarted s.config.pollInterval.duration]).1
      ((s.noteFailed p).endPoller p [.pollerStarted s.config.pollInterval.duration]).2
  /-- A poller's tick starts a check. Gate: somebody holds the session. -/
  | tick {p due next : Nat} {signalled : Bool} (poller : s.pollers[p]? = some ⟨.waiting due, signalled⟩)
      (isDue : due ≤ s.now) (held : s.references ≠ 0)
      (later : nextTick? s.config.pollInterval due s.now = some next) :
    Step s (.tick p) (s.setPoller p (.checking next .opening)) []
  /-- A poller's tick finds that nobody holds the session any more. -/
  | abandon {p due next : Nat} {signalled : Bool}
      (poller : s.pollers[p]? = some ⟨.waiting due, signalled⟩) (isDue : due ≤ s.now)
      (free : s.references = 0) (later : nextTick? s.config.pollInterval due s.now = some next) :
    Step s (.tick p) (s.endPoller p [.pollerAbandoned, .pollerStopped]).1
      (s.endPoller p [.pollerAbandoned, .pollerStopped]).2
  /-- A poller's tick has none after it, and the poller fails. -/
  | tickFails {p due : Nat} {signalled : Bool} (poller : s.pollers[p]? = some ⟨.waiting due, signalled⟩)
      (isDue : due ≤ s.now) (none : nextTick? s.config.pollInterval due s.now = none) :
    Step s (.tick p) ((s.noteFailed p).endPoller p []).1 ((s.noteFailed p).endPoller p []).2
  /-- A poller that was told to stop ends. -/
  | shutdown {p next : Nat} (poller : s.pollers[p]? = some ⟨.waiting next, true⟩) :
    Step s (.shutdown p) (s.endPoller p [.pollerSignalled, .pollerStopped]).1
      (s.endPoller p [.pollerSignalled, .pollerStopped]).2
  /-- A check of a poller finds no live session. -/
  | pollerFindsNone {p next : Nat} {signalled : Bool}
      (poller : s.pollers[p]? = some ⟨.checking next .opening, signalled⟩)
      (dead : loginOf? s.session = none) :
    Step s (.proceed (.poller p)) (s.endPoller p [.pollerEnded s.session.status, .pollerStopped]).1
      (s.endPoller p [.pollerEnded s.session.status, .pollerStopped]).2
  /-- A check of a poller asks about the login it finds. -/
  | pollerChecks {p next : Nat} {signalled : Bool} {login : LoginTime}
      (poller : s.pollers[p]? = some ⟨.checking next .opening, signalled⟩)
      (alive : loginOf? s.session = some login) :
    Step s (.proceed (.poller p)) (s.setPoller p (.checking next (.asking login s.newDeadline)))
      [.asked (.poller p) .status]
  /-- A check of a poller hears the provider's word. -/
  | pollerHears {p next d : Nat} {signalled : Bool} {login : LoginTime} {e : Event} {a : Answer}
      {reply : Reply RemoteStatus}
      (poller : s.pollers[p]? = some ⟨.checking next (.asking login d), signalled⟩)
      (heard : e.heard? = some (.poller p, a)) (word : a.word? = some reply)
      (inTime : e.InTime s.now d) :
    Step s e (s.setPoller p (.checking next (.judging login reply))) []
  /-- A check of a poller leaves the session alive, and the poller waits for its next tick. -/
  | pollerGoesOn {p next : Nat} {signalled : Bool} {login : LoginTime} {reply : Reply RemoteStatus}
      (poller : s.pollers[p]? = some ⟨.checking next (.judging login reply), signalled⟩)
      (alive : (judge s.session login reply).isAlive = true) :
    Step s (.proceed (.poller p))
      ({ s with session := judge s.session login reply }.setPoller p (.waiting next)).letGo.1
      (logged (judgeEvents s.session login reply) ++
        ({ s with session := judge s.session login reply }.setPoller p (.waiting next)).letGo.2)
  /-- A check of a poller leaves the session not alive, and the poller ends. -/
  | pollerEnds {p next : Nat} {signalled : Bool} {login : LoginTime} {reply : Reply RemoteStatus}
      (poller : s.pollers[p]? = some ⟨.checking next (.judging login reply), signalled⟩)
      (dead : (judge s.session login reply).isAlive = false) :
    Step s (.proceed (.poller p))
      ({ s with session := judge s.session login reply }.endPoller p
        (judgeEvents s.session login reply ++
          [LogEvent.pollerEnded (judge s.session login reply).status, .pollerStopped])).1
      ({ s with session := judge s.session login reply }.endPoller p
        (judgeEvents s.session login reply ++
          [LogEvent.pollerEnded (judge s.session login reply).status, .pollerStopped])).2
  | elapse {d : Nat} : Step s (.elapse d) { s with now := s.now + d } []
  | clone (held : 0 < s.handles) : Step s .clone { s with handles := s.handles + 1 } []
  /-- A handle is dropped. Gate: no call needs it. -/
  | drop (may : s.mayDrop = true) :
    Step s .drop { s with handles := s.handles - 1 }.letGo.1 { s with handles := s.handles - 1 }.letGo.2
  | notify {operation : NotificationQueue.Operation} :
    Step s (.notify operation) { s with notifications := s.notifications.apply operation }
      (logged (NotificationQueue.events operation))

variable {s t : State} {e : Event} {effects : List Effect} {c d p : Nat}

/-! ## These are the steps -/

theorem Step.of_takeTurn {r : Request} (call : s.call? c = some ⟨r, .queued⟩) (turn : s.HasTurn c) :
    s.Step (.proceed (.call c)) (s.takeTurn c r).1 (s.takeTurn c r).2 := by
  by_cases hpolling : r = .polling
  · subst hpolling
    exact .tellPolling call turn
  unfold takeTurn
  cases hp : s.slot.poller with
  | none =>
    have hp' : s.leaveLine.slot.poller = none := hp
    by_cases hlogout : r = .logout
    · subst hlogout
      simp only [hp']
      exact .askLogout call turn hp
    · have h := Step.install call turn hlogout hpolling hp
      cases r <;> simp only [hp'] <;> first | contradiction | exact h
  | some p =>
    have hp' : s.leaveLine.slot.poller = some p := hp
    by_cases hlogout : r = .logout
    · subst hlogout
      simp only [hp']
      exact .takeOut call turn hp
    · have h := Step.replace call turn hlogout hpolling hp
      cases r <;> simp only [hp'] <;> first | contradiction | exact h

theorem Step.of_proceedCall {call : Call} (hc : s.call? c = some call)
    (h : s.proceedCall c call = some (t, effects)) : s.Step (.proceed (.call c)) t effects := by
  obtain ⟨r, phase⟩ := call
  cases phase with
  | ready =>
    obtain ⟨rfl, rfl⟩ := Prod.mk.inj (Option.some.inj h)
    cases r with
    | login credentials => exact .askUser hc rfl
    | refresh => exact .askUser hc rfl
    | logout => exact .lineUp hc rfl
    | check => exact .lineUp hc rfl
    | polling => exact .lineUp hc rfl
  | adopted =>
    obtain ⟨rfl, rfl⟩ := Prod.mk.inj (Option.some.inj h)
    exact .lineUpAdopted hc
  | queued =>
    simp only [proceedCall] at h
    split at h
    · rename_i hturn
      have turn : s.HasTurn c := by simpa [HasTurn] using hturn
      obtain ⟨rfl, rfl⟩ := Prod.mk.inj (Option.some.inj h)
      exact .of_takeTurn hc turn
    · cases h
  | stopping p =>
    simp only [proceedCall] at h
    split at h
    · rename_i hover
      obtain ⟨rfl, rfl⟩ := Prod.mk.inj (Option.some.inj h)
      by_cases hlogout : r = .logout
      · subst hlogout
        exact .askLogoutStopped hc hover
      · have hstep := Step.installStopped hc hlogout hover
        cases r <;> first | contradiction | exact hstep
    · cases h
  | clearing =>
    obtain ⟨rfl, rfl⟩ := Prod.mk.inj (Option.some.inj h)
    exact .clear hc
  | checking phase =>
    cases phase with
    | opening =>
      simp only [proceedCall, callCheck] at h
      cases hlogin : loginOf? s.session with
      | none =>
        simp only [hlogin] at h
        obtain ⟨rfl, rfl⟩ := Prod.mk.inj (Option.some.inj h)
        exact .callFindsNone hc hlogin
      | some login =>
        simp only [hlogin] at h
        obtain ⟨rfl, rfl⟩ := Prod.mk.inj (Option.some.inj h)
        exact .callChecks hc hlogin
    | asking login d => cases h
    | judging login reply =>
      obtain ⟨rfl, rfl⟩ := Prod.mk.inj (Option.some.inj h)
      exact .callJudges hc
  | asking d => cases h
  | applying user => cases h
  | done outcome => cases h

theorem Step.of_proceedPoller {poller : Poller} (hp : s.pollers[p]? = some poller)
    (h : s.proceedPoller p poller = some (t, effects)) : s.Step (.proceed (.poller p)) t effects := by
  obtain ⟨phase, signalled⟩ := poller
  cases phase with
  | spawned =>
    simp only [proceedPoller] at h
    cases hfirst : firstTick? s.config.pollInterval s.now with
    | none =>
      simp only [hfirst] at h
      obtain ⟨rfl, rfl⟩ := Prod.mk.inj (Option.some.inj h)
      exact .settleFails hp hfirst
    | some next =>
      simp only [hfirst] at h
      obtain ⟨rfl, rfl⟩ := Prod.mk.inj (Option.some.inj h)
      exact .settle hp hfirst
  | waiting next => cases h
  | checking next phase =>
    cases phase with
    | opening =>
      simp only [proceedPoller, pollerCheck] at h
      cases hlogin : loginOf? s.session with
      | none =>
        simp only [hlogin] at h
        obtain ⟨rfl, rfl⟩ := Prod.mk.inj (Option.some.inj h)
        exact .pollerFindsNone hp hlogin
      | some login =>
        simp only [hlogin] at h
        obtain ⟨rfl, rfl⟩ := Prod.mk.inj (Option.some.inj h)
        exact .pollerChecks hp hlogin
    | asking login d => cases h
    | judging login reply =>
      simp only [proceedPoller, pollerCheck] at h
      split at h
      · rename_i halive
        obtain ⟨rfl, rfl⟩ := Prod.mk.inj (Option.some.inj h)
        exact .pollerGoesOn hp halive
      · rename_i hdead
        obtain ⟨rfl, rfl⟩ := Prod.mk.inj (Option.some.inj h)
        exact .pollerEnds hp (by simpa using hdead)
  | finished => cases h

theorem Step.of_callReceives {call : Call} {a : Answer} {d : Nat} (hc : s.call? c = some call)
    (hd : call.deadline? = some d) (heard : e.heard? = some (.call c, a)) (inTime : e.InTime s.now d)
    (h : s.callReceives c call a = some (t, effects)) : s.Step e t effects := by
  obtain ⟨r, phase⟩ := call
  cases phase with
  | asking d' =>
    obtain rfl : d' = d := Option.some.inj hd
    cases a with
    | user user =>
      cases r <;> first | cases h; done | skip
      all_goals
        obtain ⟨rfl, rfl⟩ := Prod.mk.inj (Option.some.inj h)
        exact .hearUser hc rfl heard inTime
    | failed error =>
      cases r <;> first | cases h; done | skip
      case logout =>
        obtain ⟨rfl, rfl⟩ := Prod.mk.inj (Option.some.inj h)
        exact .hearNoLogout hc heard inTime
      all_goals
        obtain ⟨rfl, rfl⟩ := Prod.mk.inj (Option.some.inj h)
        exact .hearNoUser hc rfl heard inTime
    | loggedOut =>
      cases r <;> first | cases h; done | skip
      obtain ⟨rfl, rfl⟩ := Prod.mk.inj (Option.some.inj h)
      exact .hearLogout hc heard inTime
    | status status => cases r <;> cases h
  | checking phase =>
    cases phase with
    | asking login d' =>
      obtain rfl : d' = d := Option.some.inj hd
      cases a with
      | status status =>
        obtain ⟨rfl, rfl⟩ := Prod.mk.inj (Option.some.inj h)
        exact .callHears hc heard rfl inTime
      | failed error =>
        obtain ⟨rfl, rfl⟩ := Prod.mk.inj (Option.some.inj h)
        exact .callHears hc heard rfl inTime
      | user user => cases h
      | loggedOut => cases h
    | opening => cases hd
    | judging login reply => cases hd
  | _ => cases hd

theorem Step.of_pollerReceives {poller : Poller} {a : Answer} {d : Nat}
    (hp : s.pollers[p]? = some poller) (hd : poller.deadline? = some d)
    (heard : e.heard? = some (.poller p, a)) (inTime : e.InTime s.now d)
    (h : s.pollerReceives p poller a = some (t, effects)) : s.Step e t effects := by
  obtain ⟨phase, signalled⟩ := poller
  cases phase with
  | checking next phase =>
    cases phase with
    | asking login d' =>
      obtain rfl : d' = d := Option.some.inj hd
      cases a with
      | status status =>
        obtain ⟨rfl, rfl⟩ := Prod.mk.inj (Option.some.inj h)
        exact .pollerHears hp heard rfl inTime
      | failed error =>
        obtain ⟨rfl, rfl⟩ := Prod.mk.inj (Option.some.inj h)
        exact .pollerHears hp heard rfl inTime
      | user user => cases h
      | loggedOut => cases h
    | opening => cases hd
    | judging login reply => cases hd
  | _ => cases hd

theorem Step.of_receives {task : Task} {a : Answer} {d : Nat} (hd : s.deadline? task = some d)
    (heard : e.heard? = some (task, a)) (inTime : e.InTime s.now d)
    (h : s.receives task a = some (t, effects)) : s.Step e t effects := by
  cases task with
  | call c =>
    obtain ⟨call, hc, hd⟩ := Option.bind_eq_some_iff.1 hd
    simp only [receives, hc] at h
    exact .of_callReceives hc hd heard inTime h
  | poller p =>
    obtain ⟨poller, hp, hd⟩ := Option.bind_eq_some_iff.1 hd
    simp only [receives, hp] at h
    exact .of_pollerReceives hp hd heard inTime h

theorem Step.of_tick {due : Nat} {signalled : Bool}
    (hp : s.pollers[p]? = some ⟨.waiting due, signalled⟩) (isDue : due ≤ s.now)
    (h : s.tick p due = (t, effects)) : s.Step (.tick p) t effects := by
  unfold State.tick at h
  cases hlater : nextTick? s.config.pollInterval due s.now with
  | none =>
    simp only [hlater] at h
    obtain ⟨rfl, rfl⟩ := Prod.mk.inj h
    exact .tickFails hp isDue hlater
  | some next =>
    simp only [hlater] at h
    split at h
    · obtain ⟨rfl, rfl⟩ := Prod.mk.inj h
      exact .abandon hp isDue ‹_› hlater
    · obtain ⟨rfl, rfl⟩ := Prod.mk.inj h
      exact .tick hp isDue ‹_› hlater

theorem Step.of_step? (h : s.step? e = some (t, effects)) : s.Step e t effects := by
  cases e with
  | start c r =>
    simp only [step?] at h
    split at h
    · rename_i hgate
      obtain ⟨rfl, rfl⟩ := Prod.mk.inj (Option.some.inj h)
      exact .start hgate.1 hgate.2
    · cases h
  | proceed task =>
    cases task with
    | call c =>
      obtain ⟨call, hc, h⟩ := Option.bind_eq_some_iff.1 h
      exact .of_proceedCall hc h
    | poller p =>
      obtain ⟨poller, hp, h⟩ := Option.bind_eq_some_iff.1 h
      exact .of_proceedPoller hp h
  | adopt c time =>
    simp only [step?] at h
    split at h
    · rename_i user hphase
      obtain ⟨⟨r, phase⟩, hc, rfl⟩ := Option.map_eq_some_iff.1 hphase
      obtain ⟨rfl, rfl⟩ := Prod.mk.inj (Option.some.inj h)
      exact .adopt hc
    · cases h
  | answer task a =>
    simp only [step?] at h
    split at h
    · exact .of_receives ‹_› rfl trivial h
    · cases h
  | timeout task =>
    simp only [step?] at h
    split at h
    · rename_i d hd
      split at h
      · exact .of_receives hd rfl ‹_› h
      · cases h
    · cases h
  | tick p =>
    simp only [step?] at h
    split at h
    · rename_i due hphase
      obtain ⟨⟨phase, signalled⟩, hp, rfl⟩ := Option.map_eq_some_iff.1 hphase
      split at h
      · exact .of_tick hp ‹_› (Option.some.inj h)
      · cases h
    · cases h
  | shutdown p =>
    simp only [step?] at h
    split at h
    · rename_i next hp
      obtain ⟨rfl, rfl⟩ := Prod.mk.inj (Option.some.inj h)
      exact .shutdown hp
    · cases h
  | elapse d =>
    obtain ⟨rfl, rfl⟩ := Prod.mk.inj (Option.some.inj h)
    exact .elapse
  | clone =>
    simp only [step?] at h
    split at h
    · obtain ⟨rfl, rfl⟩ := Prod.mk.inj (Option.some.inj h)
      exact .clone ‹_›
    · cases h
  | drop =>
    simp only [step?] at h
    split at h
    · obtain ⟨rfl, rfl⟩ := Prod.mk.inj (Option.some.inj h)
      exact .drop ‹_›
    · cases h
  | notify operation =>
    obtain ⟨rfl, rfl⟩ := Prod.mk.inj (Option.some.inj h)
    exact .notify

/-! ## What a step leaves alone -/

/-- A call moves on only in its own events. -/
theorem Step.call?_of_ne_actor (h : s.Step e t effects) (hd : e.actor? ≠ some (.call d)) :
    t.call? d = s.call? d := by
  have hactor : ∀ {c}, e.actor? = some (.call c) → d ≠ c := by
    rintro c hc rfl
    exact hd hc
  cases h
  case start held new => rw [call?_append new, if_neg (hactor rfl)]
  case hearUser heard _ | hearNoUser heard _ | hearLogout heard _ | hearNoLogout heard _
      | callHears heard _ =>
    exact call?_setCall_of_ne (hactor (Event.actor?_of_heard? heard))
  case elapse | clone | notify | settle | tick | pollerChecks | pollerHears => rfl
  case drop => exact call?_letGo
  case pollerGoesOn => exact call?_letGo
  case settleFails | tickFails | abandon | shutdown | pollerFindsNone | pollerEnds =>
    exact call?_endPoller
  all_goals exact call?_setCall_of_ne (hactor rfl)

/-- In its own events a call is made, or moves on with the same request unless it is done. -/
theorem Step.call?_of_actor (h : s.Step e t effects) (hactor : e.actor? = some (.call c)) :
    (∃ r, e = .start c r ∧ t.call? c = some (.ofRequest r)) ∨
    ∃ r phase phase', s.call? c = some ⟨r, phase⟩ ∧ (∀ o, phase ≠ .done o) ∧
      t.call? c = some ⟨r, phase'⟩ := by
  have hset : ∀ {s' : State} {r phase} {phase' : CallPhase}, s.call? c = some ⟨r, phase⟩ →
      (∀ o, phase ≠ .done o) → s'.call? c = s.call? c →
      ∃ r phase phase'', s.call? c = some ⟨r, phase⟩ ∧ (∀ o, phase ≠ .done o) ∧
        (s'.setCall c phase').call? c = some ⟨r, phase''⟩ := by
    intro s' r phase phase' hc hopen hs'
    exact ⟨r, phase, phase', hc, hopen, call?_setCall_self (hs'.trans hc)⟩
  cases h
  case start held new =>
    cases hactor
    refine Or.inl ⟨_, rfl, ?_⟩
    rw [call?_append new, if_pos rfl]
  case hearUser call _ heard _ | hearNoUser call _ heard _ | hearLogout call heard _
      | hearNoLogout call heard _ | callHears call _ heard _ =>
    cases (Event.actor?_of_heard? heard).symm.trans hactor
    exact Or.inr (hset call nofun rfl)
  case pollerHears heard _ => cases (Event.actor?_of_heard? heard).symm.trans hactor
  case askUser call _ | lineUp call _ | lineUpAdopted call | tellPolling call _ | askLogout call _ _
      | takeOut call _ _ | install call _ _ _ _ | replace call _ _ _ _ | askLogoutStopped call _
      | installStopped call _ _ | clear call | callFindsNone call _ | callChecks call _ | callJudges call
      | adopt call =>
    cases hactor
    exact Or.inr (hset call nofun rfl)
  all_goals cases hactor

/-- A call that is there was there before with the same request, or has just been made. -/
theorem Step.call?_before {call : Call} (h : s.Step e t effects) (hc : t.call? c = some call) :
    e = .start c call.request ∨ ∃ call', s.call? c = some call' ∧ call'.request = call.request := by
  by_cases hother : e.actor? ≠ some (.call c)
  · exact Or.inr ⟨call, (h.call?_of_ne_actor hother).symm.trans hc, rfl⟩
  obtain ⟨r, rfl, hr⟩ | ⟨r, phase, phase', hs, -, ht⟩ := h.call?_of_actor (Decidable.not_not.1 hother)
  · cases hr.symm.trans hc
    exact Or.inl rfl
  · cases ht.symm.trans hc
    exact Or.inr ⟨_, hs, rfl⟩

/-- A poller moves on only in its own events, and is put in charge by a call. -/
theorem Step.pollerPhase?_of_ne_actor {phase : PollerPhase} (h : s.Step e t effects)
    (hq : e.actor? ≠ some (.poller p)) (hp : s.pollerPhase? p = some phase) :
    t.pollerPhase? p = some phase := by
  have hactor : ∀ {q}, e.actor? = some (.poller q) → q ≠ p := by
    rintro q hc rfl
    exact hq hc
  have hset : ∀ {s' : State} {q : Nat} {phase' : PollerPhase}, e.actor? = some (.poller q) →
      s'.pollerPhase? p = s.pollerPhase? p → (s'.setPoller q phase').pollerPhase? p = some phase := by
    intro s' q phase' hc hs
    rw [pollerPhase?_setPoller, if_neg (hactor hc), hs, hp]
  cases h
  case settle | tick | pollerChecks => exact hset rfl rfl
  case pollerHears heard _ => exact hset (Event.actor?_of_heard? heard) rfl
  case pollerGoesOn => rw [pollerPhase?_letGo]; exact hset rfl rfl
  case settleFails | tickFails | abandon | shutdown | pollerFindsNone | pollerEnds =>
    rw [pollerPhase?_endPoller]
    exact hset rfl rfl
  case drop => rw [pollerPhase?_letGo]; exact hp
  case takeOut | replace => rw [pollerPhase?_stopPoller]; exact hp
  case install | installStopped => exact pollerPhase?_install_of_some hp
  all_goals exact hp

theorem Step.now_le (h : s.Step e t effects) : s.now ≤ t.now := by
  have hletGo : ∀ x : State, x.now = s.now → s.now ≤ x.letGo.1.now :=
    fun x hx => Nat.le_of_eq (now_letGo.trans hx).symm
  cases h
  case elapse => exact Nat.le_add_right ..
  case drop | pollerGoesOn => exact hletGo _ rfl
  case settleFails | tickFails | abandon | shutdown | pollerFindsNone | pollerEnds =>
    exact hletGo (State.setPoller _ _ .finished) rfl
  all_goals exact Nat.le_refl _

theorem Step.config (h : s.Step e t effects) : t.config = s.config := by
  cases h
  case drop | pollerGoesOn => exact config_letGo
  case settleFails | tickFails | abandon | shutdown | pollerFindsNone | pollerEnds => exact config_letGo
  all_goals rfl

/-- A poller that has finished does nothing any more. -/
theorem Step.actor?_ne_of_finished (h : s.Step e t effects)
    (hp : s.pollerPhase? p = some .finished) : e.actor? ≠ some (.poller p) := by
  intro hactor
  cases h
  case pollerHears poller _ heard _ =>
    cases (Event.actor?_of_heard? heard).symm.trans hactor
    cases (pollerPhase?_of_getElem? poller).symm.trans hp
  case hearUser heard _ | hearNoUser heard _ | hearLogout heard _ | hearNoLogout heard _
      | callHears heard _ =>
    cases (Event.actor?_of_heard? heard).symm.trans hactor
  case settle poller _ | settleFails poller _ | tick poller _ _ _ | abandon poller _ _ _
      | tickFails poller _ _ | shutdown poller | pollerFindsNone poller _ | pollerChecks poller _
      | pollerGoesOn poller _ | pollerEnds poller _ =>
    cases hactor
    cases (pollerPhase?_of_getElem? poller).symm.trans hp
  all_goals cases hactor

/-- A call that is done does nothing any more. -/
theorem Step.actor?_ne_of_done {r : Request} {o : Outcome} (h : s.Step e t effects)
    (hc : s.call? c = some ⟨r, .done o⟩) : e.actor? ≠ some (.call c) := by
  intro hactor
  obtain ⟨r', rfl, -⟩ | ⟨r', phase, phase', hs, hopen, -⟩ := h.call?_of_actor hactor
  · cases h
    case start new => cases new.symm.trans hc
    all_goals contradiction
  · cases hs.symm.trans hc
    exact hopen o rfl

end State

end AdminConsole.Client
