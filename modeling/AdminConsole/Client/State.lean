import AdminConsole.Access
import AdminConsole.Client.Poller
import AdminConsole.Notification.Queue

/-!
# The state of a client

One session and what surrounds it: the calls under way, the pollers that were spawned, and the slot
that holds the poller in charge. The slot is taken by one call at a time and the others wait for it
in line; the session itself is only ever read or replaced within a single step.

The session is held by handles, and by each poller during a check. When the last of them lets go,
the poller in the slot is told to stop.

| here | there |
| --- | --- |
| `State` | `Inner`, the calls made on it and the pollers spawned for it |
| `State.handles` | the clones of the `AdminSession` |
| `State.references` | the strong references to `Inner`: the clones, and `live` in a poller's check |
| `State.failed` | the pollers whose task panicked, so that joining it gives an error |
| `Slot` | `Inner::poller`: what the mutex holds, who has it locked and who waits for it |
| `State.polling?` | `AdminSession::is_polling` |
-/

namespace AdminConsole.Client

/-- The place of the poller in charge. -/
structure Slot where
  poller : Option Nat
  /-- The call that has the slot to itself while it waits for the previous poller to finish. -/
  holder : Option Nat
  /-- The calls that wait for the slot, the first in line first. -/
  line : List Nat
deriving DecidableEq, Repr

structure State where
  config : Config
  table : Navigation.Table
  session : Session
  notifications : NotificationQueue
  /-- How many handles hold the session. -/
  handles : Nat
  /-- Every call that was made, by its number. -/
  calls : List (Nat × Call)
  pollers : List Poller
  /-- The pollers that have failed. -/
  failed : List Nat
  slot : Slot
  /-- The time on the client's clock. -/
  now : Nat

namespace State

/-- A client that nobody has used yet, with one handle. -/
def initial (config : Config) (table : Navigation.Table) : State where
  config := config
  table := table
  session := .unauthenticated
  notifications := .empty
  handles := 1
  calls := []
  pollers := []
  failed := []
  slot := ⟨none, none, []⟩
  now := 0

/-! ## Reading -/

/-- How many hold the session: the handles and the pollers that run a check. -/
def references (s : State) : Nat := s.handles + s.pollers.countP Poller.isChecking

/-- Whether every call is done. -/
def isIdle (s : State) : Bool := s.calls.all fun c => !c.2.isOpen

def call? (s : State) (c : Nat) : Option Call := s.calls.lookup c

def hasFinished (s : State) (p : Nat) : Bool :=
  match s.pollers[p]? with
  | some poller => poller.isFinished
  | none => true

def isSignalled (s : State) (p : Nat) : Bool := s.pollers[p]?.any Poller.signalled

/-- Whether the slot holds a poller that has not finished. -/
def isWatched (s : State) : Bool :=
  match s.slot.poller with
  | some p => !s.hasFinished p
  | none => false

/-- Whether the session is being polled, unless a call has the slot to itself. -/
def polling? (s : State) : Option Bool :=
  if s.slot.holder.isSome then none else some s.isWatched

def outcome? (s : State) (c : Nat) : Option Outcome := s.call? c >>= Call.outcome?

def callPhase? (s : State) (c : Nat) : Option CallPhase := (s.call? c).map Call.phase

def pollerPhase? (s : State) (p : Nat) : Option PollerPhase := s.pollers[p]?.map Poller.phase

/-- Until when a task waits for the provider, if it does. -/
def deadline? (s : State) : Task → Option Nat
  | .call c => s.call? c >>= Call.deadline?
  | .poller p => s.pollers[p]? >>= Poller.deadline?

/-! ## Replacing a part -/

def setCall (s : State) (c : Nat) (phase : CallPhase) : State :=
  { s with calls := s.calls.map fun (i, call) =>
      (i, if i = c then { call with phase := phase } else call) }

def setPoller (s : State) (p : Nat) (phase : PollerPhase) : State :=
  { s with pollers := s.pollers.modify p ({ · with phase := phase }) }

/-- Tells a poller to stop. -/
def signal (s : State) (p : Nat) : State :=
  { s with pollers := s.pollers.modify p ({ · with signalled := true }) }

/-- Records that a poller has failed. -/
def noteFailed (s : State) (p : Nat) : State := { s with failed := p :: s.failed }

/-- When a request made now times out. -/
def newDeadline (s : State) : Nat := s.now + s.config.requestTimeout.nanoseconds

end State

end AdminConsole.Client
