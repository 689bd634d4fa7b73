import AdminConsole.Client.Call
import AdminConsole.Config

/-!
# Pollers

A poller watches one session. It waits for its next tick, runs a check, and waits again; it ends
when it is told to stop, when a check finds the session no longer alive, or when a tick finds that
nobody holds the session any more. A check in flight is always finished.

Ticks are due one period apart. A poller that was held up skips the ticks that it missed. Its first
tick and a tick that follows a late one are computed from the current time: where the clock cannot
hold the result there is no next tick, and the poller fails.

| here | there |
| --- | --- |
| `Poller` | the task that `SessionPoller::start` spawns, with its `shutdown` signal |
| `firstTick?` | `Instant::now() + period`, which panics where the clock cannot hold the sum |
| `nextTick?` | when an interval with `MissedTickBehavior::Skip` ticks next; it panics likewise |
-/

namespace AdminConsole.Client

inductive PollerPhase where
  /-- Has not run yet. -/
  | spawned
  | waiting (next : Nat)
  /-- Runs a check, and holds the session meanwhile. `next` is when the tick after it is due. -/
  | checking (next : Nat) (phase : CheckPhase)
  | finished
deriving DecidableEq, Repr

structure Poller where
  phase : PollerPhase
  /-- Told to stop. -/
  signalled : Bool
deriving DecidableEq, Repr

namespace Poller

def fresh : Poller := ⟨.spawned, false⟩

def isFinished (p : Poller) : Bool := p.phase == .finished

/-- Whether the poller holds the session. -/
def isChecking (p : Poller) : Bool :=
  match p.phase with
  | .checking .. => true
  | _ => false

/-- Until when the poller waits for the provider, if it does. -/
def deadline? (p : Poller) : Option Nat :=
  match p.phase with
  | .checking _ (.asking _ d) => some d
  | _ => none

end Poller

/-- How far a tick may be late and still count as on time. -/
def tickTolerance : Nat := (Duration.ofMillis 5).nanoseconds

/-- The first moment that a clock cannot hold: it counts seconds in 64 bits, one of them a sign. -/
def clockLimit : Nat := UInt64.size / 2 * Duration.nanosPerSecond

/-- A period from now, if the clock can hold that moment. -/
def firstTick? (period : Period) (now : Nat) : Option Nat :=
  if now + period.nanoseconds < clockLimit then some (now + period.nanoseconds) else none

/-- When the tick after one that was due at `due` and happens at `now` is due: a period after `due`,
or, if the tick was too late for that, at the first later time a whole number of periods after it.
The latter is a period from now less what is over, for which there are 64 bits of nanoseconds. -/
def nextTick? (period : Period) (due now : Nat) : Option Nat :=
  if now ≤ due + tickTolerance then some (due + period.nanoseconds)
  else if (now - due) % period.nanoseconds < UInt64.size then
    (firstTick? period now).map (· - (now - due) % period.nanoseconds)
  else none

theorem firstTick?_eq_some_iff {period : Period} {now next : Nat} :
    firstTick? period now = some next ↔
      now + period.nanoseconds < clockLimit ∧ next = now + period.nanoseconds := by
  unfold firstTick?
  split <;> simp [*, eq_comm]

theorem firstTick?_eq_none_iff {period : Period} {now : Nat} :
    firstTick? period now = none ↔ clockLimit ≤ now + period.nanoseconds := by
  unfold firstTick?
  split <;> simp <;> omega

/-- There is no next tick exactly if the tick comes too late for the usual one and a period from
now, or what is to be taken off it, is more than the clock has room for. -/
theorem nextTick?_eq_none_iff {period : Period} {due now : Nat} :
    nextTick? period due now = none ↔ due + tickTolerance < now ∧
      (clockLimit ≤ now + period.nanoseconds ∨
        UInt64.size ≤ (now - due) % period.nanoseconds) := by
  unfold nextTick?
  split
  · simp; omega
  split <;> simp [firstTick?_eq_none_iff] <;> omega

end AdminConsole.Client
