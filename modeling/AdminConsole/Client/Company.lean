import AdminConsole.Client.Step

/-!
# A client in company

The events of a client are those of its own calls and pollers. Others can do more to it: whoever has a
handle may have a poller of their own for the session, and may drop a call before it is done, wherever it
waits. A `Company` is a client together with such pollers, and a `Deed` is what may happen to it.

| here | there |
| --- | --- |
| `Deed.spawn` | `SessionPoller::new` on a handle, then `SessionPoller::start` |
| `Deed.stop`, `Deed.stopReturns` | `PollerHandle::stop`: the signal, and the end of the wait for the task |
| `Deed.release` | dropping a `PollerHandle`, or a wait in `PollerHandle::stop` |
| `Deed.abandon` | dropping the future of a call |

A poller of somebody's own holds the session like any other: not while it waits, but in each of its checks.
-/

namespace AdminConsole.Client

/-- A client and the pollers that others have started for its session. -/
structure Company where
  client : State
  /-- The pollers that someone keeps. -/
  kept : List Nat
  /-- The pollers that someone has told to stop and waits for. -/
  awaited : List Nat

/-- What happens to a client in company. -/
inductive Deed where
  /-- An event of the client. -/
  | own (e : Event)
  /-- Someone starts a poller. -/
  | spawn
  /-- Someone tells a poller of theirs to stop, and waits for it to finish. -/
  | stop (p : Nat)
  /-- Someone who has waited for a poller of theirs goes on. -/
  | stopReturns (p : Nat)
  /-- Someone forgets a poller of theirs, or gives up waiting for it. -/
  | release (p : Nat)
  /-- A call is dropped before it is done. -/
  | abandon (c : Nat)
deriving DecidableEq

namespace State

/-- Starts a poller that does not come into the slot. -/
def spawn (s : State) : State := { s with pollers := s.pollers ++ [Poller.fresh] }

/-- Whether a call keeps the slot, or is about to have its turn there. -/
def hasSlot (s : State) (c : Nat) : Bool :=
  s.slot.holder == some c || s.slot.holder.isNone && s.slot.line.head? == some c

/-- Takes a call away. If the slot was the call's, the next in line has its turn; a poller that the call
waited for was told to stop before. -/
def abandon (s : State) (c : Nat) : Move :=
  let holder := if s.slot.holder = some c then none else s.slot.holder
  let t := { s with calls := s.calls.filter fun x => x.1 ≠ c,
                    slot := { s.slot with holder := holder, line := s.slot.line.erase c } }
  (t, if s.hasSlot c then t.wakeNext else [])

end State

namespace Company

/-- A client that nobody has used yet, for which nobody has started a poller. -/
def initial (config : Config) (table : Navigation.Table) : Company := ⟨.initial config table, [], []⟩

/-- The company after a deed, with its effects, if the deed can happen. A poller may be started when no
handle is left, if it was made while there was one. -/
def step? (x : Company) : Deed → Option (Company × List Effect)
  | .own e => (x.client.step? e).map fun (s, effects) => ({ x with client := s }, effects)
  | .spawn =>
    let p := x.client.pollers.length
    some ({ x with client := x.client.spawn, kept := p :: x.kept }, [.woken (.poller p)])
  | .stop p =>
    if p ∈ x.kept then
      some (⟨x.client.signal p, x.kept.erase p, p :: x.awaited⟩, [.woken (.poller p)])
    else none
  | .stopReturns p =>
    if p ∈ x.awaited ∧ x.client.hasFinished p = true then
      some ({ x with awaited := x.awaited.erase p }, logged (x.client.joinEvents p))
    else none
  | .release p =>
    if p ∈ x.kept ∨ p ∈ x.awaited then
      some (⟨x.client.signal p, x.kept.erase p, x.awaited.erase p⟩, [.woken (.poller p)])
    else none
  | .abandon c =>
    match x.client.call? c with
    | some call =>
      if call.isOpen then
        let (s, effects) := x.client.abandon c
        some ({ x with client := s }, effects)
      else none
    | none => none

/-- A run of a client in company. -/
inductive Run : Company → List (Deed × List Effect) → Company → Prop where
  | nil {x : Company} : Run x [] x
  | cons {x y z : Company} {d : Deed} {effects : List Effect} {rest : List (Deed × List Effect)} :
    x.step? d = some (y, effects) → Run y rest z → Run x ((d, effects) :: rest) z

end Company

end AdminConsole.Client
