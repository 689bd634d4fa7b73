import AdminConsole.Client.Step

/-!
# Rehearsals

A run of a client against a script of what the provider answers, on a clock that moves only when
nothing else can happen. Of all the runs that the client allows this is one: tasks run in the order
in which they were woken, each as far as it can, and a task whose time has come is woken before the
clock moves on. Alarms of one moment go off in the order in which they were set.

A call in the foreground is one that its maker waits for, and is no part of that order: it goes
first when the clock has moved, and otherwise waits until no other task is awake.

A request to the provider passes the gate of its service, if the gate is closed once it opens, then
takes the service's delay, and gets the service's answer of that moment. An answer that is due at
the deadline is in time.
-/

namespace AdminConsole.Client

/-! ## The script -/

/-- The services of the provider. -/
inductive Service where
  | login
  | userData
  | status
  | logout
deriving DecidableEq, Repr

def Ask.service : Ask → Service
  | .login _ => .login
  | .userData => .userData
  | .status => .status
  | .logout => .logout

/-- How a service behaves for the time being. -/
structure Behaviour where
  gated : Bool
  delay : Duration
  answer : Answer
deriving Repr

/-- How each service behaves. -/
structure Script where
  login : Behaviour
  userData : Behaviour
  status : Behaviour
  logout : Behaviour
deriving Repr

namespace Script

/-- Every service answers at once: a login with the user's data, a check with `alive`. -/
def obliging (user : UserData) : Script where
  login := ⟨false, ⟨0⟩, .user user⟩
  userData := ⟨false, ⟨0⟩, .user user⟩
  status := ⟨false, ⟨0⟩, .status .alive⟩
  logout := ⟨false, ⟨0⟩, .loggedOut⟩

def get (s : Script) : Service → Behaviour
  | .login => s.login
  | .userData => s.userData
  | .status => s.status
  | .logout => s.logout

def modify (s : Script) (service : Service) (f : Behaviour → Behaviour) : Script :=
  match service with
  | .login => { s with login := f s.login }
  | .userData => { s with userData := f s.userData }
  | .status => { s with status := f s.status }
  | .logout => { s with logout := f s.logout }

end Script

/-! ## Requests under way and alarms -/

/-- A request that the provider has not answered. -/
structure Pending where
  task : Task
  service : Service
  /-- When the answer is due; nothing while the gate is closed. -/
  due : Option Nat
deriving DecidableEq, Repr

/-- What a task is woken for at a set time. -/
inductive Purpose where
  | answer
  | deadline
  | tick
deriving DecidableEq, Repr

structure Alarm where
  due : Nat
  task : Task
  purpose : Purpose
deriving DecidableEq, Repr

/-- A request to the provider, and when it was made. -/
structure Enquiry where
  ask : Ask
  time : Nat

structure Rehearsal where
  client : State
  script : Script
  pending : List Pending
  /-- The tasks that may be able to go on, in the order in which they were woken. -/
  runnable : List Task
  /-- The last call that was made in the foreground. -/
  foreground : Option Nat
  /-- Whether that call may be able to go on. -/
  foregroundAwake : Bool
  /-- In the order in which they were set. -/
  alarms : List Alarm
  /-- How many logins have been applied. -/
  logins : Nat
  /-- The calls that hold a handle of their own until they are done. -/
  background : List Nat
  log : Array LogEvent
  enquiries : Array Enquiry

namespace Rehearsal

def initial (config : Config) (table : Navigation.Table) (user : UserData) : Rehearsal where
  client := .initial config table
  script := .obliging user
  pending := []
  runnable := []
  foreground := none
  foregroundAwake := false
  alarms := []
  logins := 0
  background := []
  log := #[]
  enquiries := #[]

def now (r : Rehearsal) : Nat := r.client.now

def pendingOf? (r : Rehearsal) (t : Task) : Option Pending := r.pending.find? (·.task == t)

/-- The task in the foreground. -/
def foregroundTask? (r : Rehearsal) : Option Task := r.foreground.map .call

/-- Wakes a task that is not awake yet. -/
def wake (r : Rehearsal) (t : Task) : Rehearsal :=
  if r.foregroundTask? = some t then { r with foregroundAwake := true }
  else if r.runnable.contains t then r
  else { r with runnable := r.runnable ++ [t] }

/-- Sets an alarm, unless its time has come or it has been set. -/
def setAlarm (r : Rehearsal) (a : Alarm) : Rehearsal :=
  if a.due ≤ r.now || r.alarms.contains a then r else { r with alarms := r.alarms ++ [a] }

/-- Whether a task still waits for what an alarm was set for. -/
def awaits (r : Rehearsal) (a : Alarm) : Bool :=
  match a.purpose with
  | .answer => (r.pendingOf? a.task).any fun p => p.due == some a.due
  | .deadline => r.client.deadline? a.task == some a.due
  | .tick =>
    match a.task with
    | .poller p => r.client.pollerPhase? p == some (.waiting a.due)
    | .call _ => false

/-! ## Effects of steps -/

/-- The provider receives a request. -/
def receive (r : Rehearsal) (t : Task) (a : Ask) : Rehearsal :=
  let b := r.script.get a.service
  let due := if b.gated then none else some (r.now + b.delay.nanoseconds)
  let r := { r with pending := r.pending ++ [Pending.mk t a.service due],
                    enquiries := r.enquiries.push ⟨a, r.now⟩ }
  let r := match due with
    | some d => r.setAlarm ⟨d, t, .answer⟩
    | none => r
  match r.client.deadline? t with
  | some d => r.setAlarm ⟨d, t, .deadline⟩
  | none => r

def effect (r : Rehearsal) : Effect → Rehearsal
  | .logged e => { r with log := r.log.push e }
  | .asked t a => r.receive t a
  | .woken t => r.wake t

/-- The rehearsal after an event, if the event can happen. -/
def perform? (r : Rehearsal) (e : Event) : Option Rehearsal :=
  (r.client.step? e).map fun (client, effects) => effects.foldl effect { r with client := client }

/-- An event that has to be able to happen leads on; another leaves the rehearsal as it is. -/
def perform (r : Rehearsal) (e : Event) : Rehearsal := (r.perform? e).getD r

/-! ## Running tasks -/

/-- What a call does next of itself. -/
def nextOfCall (r : Rehearsal) (c : Nat) : Event :=
  match r.client.callPhase? c with
  | some (.applying _) => .adopt c (r.logins + 1)
  | _ => .proceed (.call c)

/-- What a poller does next of itself: being told to stop goes before a tick. -/
def nextOfPoller (r : Rehearsal) (p : Nat) : Event :=
  match r.client.pollerPhase? p with
  | some (.waiting _) => if r.client.isSignalled p then .shutdown p else .tick p
  | _ => .proceed (.poller p)

/-- What a task does next. An answer that is due goes before a deadline that has come. -/
def nextEvent (r : Rehearsal) (t : Task) : Event :=
  match r.pendingOf? t with
  | some pending =>
    if pending.due.any (· ≤ r.now) then .answer t (r.script.get pending.service).answer
    else .timeout t
  | none =>
    match t with
    | .call c => r.nextOfCall c
    | .poller p => r.nextOfPoller p

/-- Books what an event of a task means for the rehearsal itself, ahead of its effects. -/
def book (r : Rehearsal) (t : Task) : Event → Rehearsal
  | .answer .. | .timeout _ => { r with pending := r.pending.filter (·.task != t) }
  | .adopt .. => { r with logins := r.logins + 1 }
  | _ => r

/-- A task comes to rest: a poller sets an alarm for its tick, a call that is done gives back the
handle it held. -/
def rest (r : Rehearsal) : Task → Rehearsal
  | .poller p =>
    match r.client.pollerPhase? p with
    | some (.waiting next) => r.setAlarm ⟨next, .poller p, .tick⟩
    | _ => r
  | .call c =>
    if r.background.contains c && (r.client.outcome? c).isSome then
      { r with background := r.background.erase c }.perform .drop
    else r

/-- Runs a task as far as it can go, at most `fuel` steps. -/
def runTask : Nat → Rehearsal → Task → Rehearsal
  | 0, r, t => r.rest t
  | fuel + 1, r, t =>
    let e := r.nextEvent t
    match (r.book t e).perform? e with
    | some next => runTask fuel next t
    | none => r.rest t

/-- More steps than a task takes, or tasks are woken, before the clock has to move. -/
def ample : Nat := 1000000

/-- Runs the call in the foreground if it is awake. -/
def runForeground (r : Rehearsal) : Rehearsal :=
  match r.foregroundTask? with
  | some t => if r.foregroundAwake then runTask ample { r with foregroundAwake := false } t else r
  | none => r

/-- Runs the tasks that are awake, and those they wake, until all are at rest. -/
def settleWithin : Nat → Rehearsal → Rehearsal
  | 0, r => r
  | fuel + 1, r =>
    match r.runnable with
    | [] => if r.foregroundAwake then settleWithin fuel r.runForeground else r
    | t :: rest => settleWithin fuel (runTask ample { r with runnable := rest } t)

def settle (r : Rehearsal) : Rehearsal := settleWithin ample r

/-! ## Moving the clock -/

/-- When the next alarm goes off for which a task still waits. -/
def nextAlarm? (r : Rehearsal) : Option Nat := (r.alarms.filter r.awaits).map Alarm.due |>.min?

/-- The alarms of the past go off. -/
def ring (r : Rehearsal) : Rehearsal :=
  let gone := (r.alarms.filter fun a => a.due ≤ r.now && r.awaits a).mergeSort fun a b =>
    a.due ≤ b.due
  let r := { r with alarms := r.alarms.filter fun a => r.now < a.due }
  gone.foldl (fun r a => r.wake a.task) r

/-- Moves the clock and lets everything happen that is due then. -/
def advanceTo (r : Rehearsal) (time : Nat) : Rehearsal :=
  (r.perform (.elapse (time - r.now))).ring.runForeground.settle

/-- Lets time run from `time`, alarm by alarm, until `stop` holds or the next alarm is after
`limit`. -/
def runUntil (limit : Nat) (stop : Rehearsal → Bool) (time : Nat) (r : Rehearsal) : Rehearsal :=
  if stop r then r
  else
    match r.nextAlarm? with
    | none => r
    | some due =>
      if _h : time < due ∧ due ≤ limit then runUntil limit stop due (r.advanceTo due) else r
termination_by limit - time
decreasing_by omega

/-- Lets a span of time pass, with everything that is due in it and at its end. -/
def wait (r : Rehearsal) (span : Duration) : Rehearsal :=
  let limit := r.now + span.nanoseconds
  (runUntil limit (fun _ => false) r.now r).advanceTo limit

/-! ## What is done to the client -/

/-- The calls that are still open. -/
def openCalls (r : Rehearsal) : Nat := r.client.calls.countP fun c => c.2.isOpen

/-- Lets time run until a call is done. No call waits for more requests than there are open calls,
its own and that of a poller, so that the time it may take is bounded. -/
def await (r : Rehearsal) (c : Nat) : Rehearsal :=
  let limit := r.now + (r.openCalls + 3) * r.client.config.requestTimeout.nanoseconds
  runUntil limit (fun r => (r.client.outcome? c).isSome) r.now r

/-- Starts a call and lets everything happen that needs no time. The new call's number comes first.
-/
def start (r : Rehearsal) (request : Request) : Nat × Rehearsal :=
  let c := r.client.calls.length
  (c, ((r.perform (.start c request)).wake (.call c)).settle)

/-- Makes a call in the foreground and waits until it is done. -/
def call (r : Rehearsal) (request : Request) : Nat × Rehearsal :=
  let (c, r) := { r with foreground := some r.client.calls.length }.start request
  (c, r.await c)

/-- Starts a call that holds a handle of its own. -/
def begin (r : Rehearsal) (request : Request) : Nat × Rehearsal :=
  let c := r.client.calls.length
  { r.perform .clone with background := r.background ++ [c] }.start request

/-- How many handles are held other than by calls in the background. -/
def handles (r : Rehearsal) : Nat := r.client.handles - r.background.length

/-- Does something that concerns no call and lets everything happen that needs no time. -/
def act (r : Rehearsal) (e : Event) : Rehearsal := (r.perform e).settle

/-- Lets the requests that wait at the gate of a service pass, in the order in which they came. -/
def openGate (r : Rehearsal) (service : Service) : Rehearsal :=
  let due := r.now + (r.script.get service).delay.nanoseconds
  let held := (r.pending.filter fun p => p.service == service && p.due.isNone).map Pending.task
  let pending := r.pending.map fun p =>
    if p.service = service ∧ p.due.isNone then { p with due := some due } else p
  held.foldl (fun r t => (r.wake t).setAlarm ⟨due, t, .answer⟩) { r with pending := pending }

/-- Changes how a service behaves. -/
def direct (r : Rehearsal) (service : Service) (f : Behaviour → Behaviour) : Rehearsal :=
  let r := { r with script := r.script.modify service f }
  (if (r.script.get service).gated then r else r.openGate service).settle

/-- Forgets what has been logged and asked so far. -/
def turnPage (r : Rehearsal) : Rehearsal := { r with log := #[], enquiries := #[] }

end Rehearsal

end AdminConsole.Client
