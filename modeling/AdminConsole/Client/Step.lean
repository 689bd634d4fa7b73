import AdminConsole.Client.State

/-!
# Steps of a client

What can happen to a client and what follows. A step takes one task from one point at which others
may run to the next, or brings something from outside: a call, an answer of the provider, the
passing of time, a handle cloned or dropped. `step?` is undefined where the step cannot happen.

Every order of steps that `step?` allows is a run of the client. Nothing is assumed of the order in
which tasks run, of how soon they run, or of when and what the provider answers: an answer that a task
finds when it runs again counts, be its deadline past or not, and only a time-out needs the deadline
to have passed.

In a run of the client every call that is made is carried through, and the pollers are those that
logins and refreshes spawn. What becomes of a client whose calls may be dropped midway, and for whose
session others start and stop pollers, is for `Company` to say.

| here | there |
| --- | --- |
| `callAsks`, `Event.timeout` | `AdminSession::bounded` |
| `adopt` | `Session::authenticate_profile` in `login` and in `refresh_user_data` |
| `takeTurn`, `install` | `start_polling` for a login or a refresh, `stop_polling` for a logout, `is_polling` |
| `stopPoller`, `afterStop` | `PollerHandle::stop`: the signal, and what follows the end of the task |
| `callCheck`, `pollerCheck` | `AdminSession::check_session` |
| `proceedPoller`, `tick` | `SessionPoller::start`: up to the loop, and an arm of its `select` |
| `letGo` | dropping `Inner`, and with it the `PollerHandle` in the slot |
-/

namespace AdminConsole.Client

/-- What happens to a client by way of its own calls and pollers. No event drops a call before it is done,
and no poller comes from anything but a login or a refresh; see `Deed` for both. -/
inductive Event where
  /-- A call is made on a handle, under a number that no call had before. -/
  | start (c : Nat) (request : Request)
  /-- A task does what it can do by itself. -/
  | proceed (t : Task)
  /-- A call adopts the user's data it has received; the login has the given time. -/
  | adopt (c : Nat) (time : LoginTime)
  /-- The provider answers a task. -/
  | answer (t : Task) (answer : Answer)
  /-- A task has waited for the provider until its deadline. -/
  | timeout (t : Task)
  /-- A waiting poller's tick is due. -/
  | tick (p : Nat)
  /-- A waiting poller heeds that it was told to stop. -/
  | shutdown (p : Nat)
  /-- Time passes. -/
  | elapse (nanoseconds : Nat)
  | clone
  | drop
  /-- Someone uses the notification queue. -/
  | notify (operation : NotificationQueue.Operation)
deriving DecidableEq

/-- What a step does beyond the client's own state. -/
inductive Effect where
  | logged (event : LogEvent)
  /-- A task asks the provider. -/
  | asked (t : Task) (ask : Ask)
  /-- A task that was waiting may go on. -/
  | woken (t : Task)
deriving DecidableEq

/-- The state after a step and the effects of the step, in order. -/
abbrev Move := State × List Effect

def logged (events : List LogEvent) : List Effect := events.map .logged

namespace State

/-! ## The slot and the pollers -/

/-- Wakes the first call in line, which has the slot's attention now that the slot is free. -/
def wakeNext (s : State) : List Effect :=
  match s.slot.line with
  | c :: _ => [.woken (.call c)]
  | [] => []

/-- Puts a call at the end of the line for the slot. -/
def enqueue (s : State) (c : Nat) : State :=
  { s.setCall c .queued with slot := { s.slot with line := s.slot.line ++ [c] } }

/-- Takes the first call out of the line. -/
def leaveLine (s : State) : State := { s with slot := { s.slot with line := s.slot.line.tail } }

/-- Ends a login or a refresh: spawns a poller, puts it in charge and frees the slot. -/
def install (s : State) (c : Nat) : Move :=
  let p := s.pollers.length
  let s := { s with pollers := s.pollers ++ [Poller.fresh],
                    slot := { s.slot with poller := some p, holder := none } }
  (s.setCall c (.done .completed), .woken (.poller p) :: s.wakeNext)

/-- Asks the provider on behalf of a call. -/
def callAsks (s : State) (c : Nat) (a : Ask) : Move :=
  (s.setCall c (.asking s.newDeadline), [.asked (.call c) a])

/-- Takes the poller out of the slot and tells it to stop; the call waits until it has. -/
def stopPoller (s : State) (c p : Nat) : State :=
  ({ s with slot := { s.slot with poller := none } }.signal p).setCall c (.stopping p)

/-- The first call in line has its turn at the slot. A login or a refresh keeps the slot until the
poller it replaces has finished; a logout and a question free it at once. -/
def takeTurn (s : State) (c : Nat) (r : Request) : Move :=
  let s := s.leaveLine
  match r, s.slot.poller with
  | .polling, _ => (s.setCall c (.done (.polling s.isWatched)), s.wakeNext)
  | .logout, none =>
    let (s', effects) := s.callAsks c .logout
    (s', s.wakeNext ++ effects)
  | .logout, some p => (s.stopPoller c p, s.wakeNext ++ [.woken (.poller p)])
  | _, none => s.install c
  | _, some p =>
    ({ s with slot := { s.slot with holder := some c } }.stopPoller c p, [.woken (.poller p)])

/-- If nobody holds the session any more, the poller in the slot is told to stop. -/
def letGo (s : State) : Move :=
  match s.slot.poller with
  | some p =>
    if s.references = 0 then
      ({ s with slot := { s.slot with poller := none } }.signal p, [.woken (.poller p)])
    else (s, [])
  | none => (s, [])

/-- The calls that wait for a poller to finish. -/
def waitersFor (s : State) (p : Nat) : List Nat :=
  (s.calls.filter fun c => c.2.phase == .stopping p).map Prod.fst

/-- A poller ends, and lets go of the session if it held it. -/
def endPoller (s : State) (p : Nat) (events : List LogEvent) : Move :=
  let wakes := (s.waitersFor p).map fun c => Effect.woken (.call c)
  let (s', effects) := (s.setPoller p .finished).letGo
  (s', logged events ++ wakes ++ effects)

/-- What a call that waited for a poller writes to the log when the poller has ended. -/
def joinEvents (s : State) (p : Nat) : List LogEvent :=
  if p ∈ s.failed then [.pollerFailed] else []

/-! ## Calls -/

/-- The first step of a call that is not a check. -/
def beginCall (s : State) (c : Nat) : Request → Move
  | .login credentials => s.callAsks c (.login credentials)
  | .refresh => s.callAsks c .userData
  | .logout | .polling | .check => (s.enqueue c, [])

/-- A step of a check that a call makes. -/
def callCheck (s : State) (c : Nat) : CheckPhase → Option Move
  | .opening =>
    match loginOf? s.session with
    | none => some (s.setCall c (.done (.status s.session.status)), [])
    | some login =>
      some (s.setCall c (.checking (.asking login s.newDeadline)), [.asked (.call c) .status])
  | .asking .. => none
  | .judging login reply =>
    let session := judge s.session login reply
    some ({ s with session := session }.setCall c (.done (.status session.status)),
      logged (judgeEvents s.session login reply))

/-- The poller that a call waited for has finished. -/
def afterStop (s : State) (c p : Nat) : Request → Move
  | .logout =>
    let (s', effects) := s.callAsks c .logout
    (s', logged (s.joinEvents p) ++ effects)
  | _ =>
    let (s', effects) := s.install c
    (s', logged (s.joinEvents p) ++ effects)

def proceedCall (s : State) (c : Nat) (call : Call) : Option Move :=
  match call.phase with
  | .ready => some (s.beginCall c call.request)
  | .adopted => some (s.enqueue c, [])
  | .queued =>
    if s.slot.holder.isNone && s.slot.line.head? == some c then some (s.takeTurn c call.request)
    else none
  | .stopping p => if s.hasFinished p then some (s.afterStop c p call.request) else none
  | .clearing =>
    some ({ s with session := s.session.apply .clear }.setCall c (.done .completed),
      logged (s.session.events .clear))
  | .checking phase => s.callCheck c phase
  | .asking _ | .applying _ | .done _ => none

/-- The user's data become the session. -/
def adopt (s : State) (c : Nat) (user : UserData) (time : LoginTime) : Move :=
  let t := Session.Transition.authenticate user.profile time
  ({ s with session := s.session.apply t }.setCall c .adopted,
    logged (LogEvent.ofNames user.permissions ++ s.session.events t))

/-- A call receives an answer to what it asked. -/
def callReceives (s : State) (c : Nat) (call : Call) (a : Answer) : Option Move :=
  match call.phase, call.request, a with
  | .asking _, .login _, .user data | .asking _, .refresh, .user data =>
    some (s.setCall c (.applying data), [])
  | .asking _, .login credentials, .failed e =>
    some (s.setCall c (.done (.failed e)), [.logged (.loginFailed credentials.username e)])
  | .asking _, .refresh, .failed e => some (s.setCall c (.done (.failed e)), [])
  | .asking _, .logout, .loggedOut => some (s.setCall c .clearing, [])
  | .asking _, .logout, .failed e =>
    some (s.setCall c .clearing, [.logged (.logoutRequestFailed e)])
  | .checking (.asking login _), _, .status r =>
    some (s.setCall c (.checking (.judging login (.ok r))), [])
  | .checking (.asking login _), _, .failed e =>
    some (s.setCall c (.checking (.judging login (.error e))), [])
  | _, _, _ => none

/-! ## Pollers -/

/-- A step of a check that a poller makes. A poller whose check found the session alive lets go of
it and waits for its next tick; any other ends. -/
def pollerCheck (s : State) (p next : Nat) : CheckPhase → Option Move
  | .opening =>
    match loginOf? s.session with
    | none => some (s.endPoller p [.pollerEnded s.session.status, .pollerStopped])
    | some login =>
      some (s.setPoller p (.checking next (.asking login s.newDeadline)),
        [.asked (.poller p) .status])
  | .asking .. => none
  | .judging login reply =>
    let events := judgeEvents s.session login reply
    let s := { s with session := judge s.session login reply }
    if s.session.isAlive then
      let (s', effects) := (s.setPoller p (.waiting next)).letGo
      some (s', logged events ++ effects)
    else some (s.endPoller p (events ++ [.pollerEnded s.session.status, .pollerStopped]))

def proceedPoller (s : State) (p : Nat) (poller : Poller) : Option Move :=
  match poller.phase with
  | .spawned =>
    let started := LogEvent.pollerStarted s.config.pollInterval.duration
    match firstTick? s.config.pollInterval s.now with
    | some next => some (s.setPoller p (.waiting next), [.logged started])
    | none => some ((s.noteFailed p).endPoller p [started])
  | .checking next phase => s.pollerCheck p next phase
  | .waiting _ | .finished => none

/-- A poller receives an answer to its check. -/
def pollerReceives (s : State) (p : Nat) (poller : Poller) (a : Answer) : Option Move :=
  match poller.phase, a with
  | .checking next (.asking login _), .status r =>
    some (s.setPoller p (.checking next (.judging login (.ok r))), [])
  | .checking next (.asking login _), .failed e =>
    some (s.setPoller p (.checking next (.judging login (.error e))), [])
  | _, _ => none

/-- A tick that was due at `due` starts a check, unless nobody holds the session any more. When the
next one is due is settled first: if there is none, the poller fails and writes nothing to the log. -/
def tick (s : State) (p due : Nat) : Move :=
  match nextTick? s.config.pollInterval due s.now with
  | none => (s.noteFailed p).endPoller p []
  | some next =>
    if s.references = 0 then s.endPoller p [.pollerAbandoned, .pollerStopped]
    else (s.setPoller p (.checking next .opening), [])

/-! ## All steps -/

def receives (s : State) (t : Task) (a : Answer) : Option Move :=
  match t with
  | .call c => s.call? c >>= fun call => s.callReceives c call a
  | .poller p => s.pollers[p]? >>= fun poller => s.pollerReceives p poller a

/-- Whether a handle may be dropped: one that a call is using may not. -/
def mayDrop (s : State) : Bool := 1 < s.handles || (s.handles == 1 && s.isIdle)

/-- The client after an event, with its effects, if the event can happen. -/
def step? (s : State) : Event → Option Move
  | .start c r =>
    if 0 < s.handles ∧ s.call? c = none then
      some ({ s with calls := s.calls ++ [(c, .ofRequest r)] }, [])
    else none
  | .proceed (.call c) => s.call? c >>= s.proceedCall c
  | .proceed (.poller p) => s.pollers[p]? >>= s.proceedPoller p
  | .adopt c time =>
    match s.callPhase? c with
    | some (.applying user) => some (s.adopt c user time)
    | _ => none
  | .answer t a =>
    match s.deadline? t with
    | some _ => s.receives t a
    | none => none
  | .timeout t =>
    match s.deadline? t with
    | some d => if d ≤ s.now then s.receives t (.failed .timeout) else none
    | none => none
  | .tick p =>
    match s.pollerPhase? p with
    | some (.waiting next) => if next ≤ s.now then some (s.tick p next) else none
    | _ => none
  | .shutdown p =>
    match s.pollers[p]? with
    | some ⟨.waiting _, true⟩ => some (s.endPoller p [.pollerSignalled, .pollerStopped])
    | _ => none
  | .elapse d => some ({ s with now := s.now + d }, [])
  | .clone => if 0 < s.handles then some ({ s with handles := s.handles + 1 }, []) else none
  | .drop =>
    if s.mayDrop then some ({ s with handles := s.handles - 1 }.letGo) else none
  | .notify operation =>
    some ({ s with notifications := s.notifications.apply operation },
      logged (NotificationQueue.events operation))

end State

/-- A run: each event of the sequence can happen where it stands, and leads on to the next. -/
inductive Run : State → List (Event × List Effect) → State → Prop where
  | nil {s : State} : Run s [] s
  | cons {s t u : State} {e : Event} {effects : List Effect} {rest : List (Event × List Effect)} :
    s.step? e = some (t, effects) → Run t rest u → Run s ((e, effects) :: rest) u

end AdminConsole.Client
