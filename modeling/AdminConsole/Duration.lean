import AdminConsole.Text.Digits

/-!
# Durations

A span of time with the resolution of a nanosecond. It is shown in the largest unit of which it
holds at least one, with as many decimals as it needs.
-/

namespace AdminConsole

structure Duration where
  nanoseconds : Nat
deriving DecidableEq, Repr, Inhabited

namespace Duration

def nanosPerMicro : Nat := 1000
def nanosPerMilli : Nat := 1000000
def nanosPerSecond : Nat := 1000000000

def ofMillis (ms : Nat) : Duration := ⟨ms * nanosPerMilli⟩

def ofParts (seconds nanos : Nat) : Duration := ⟨seconds * nanosPerSecond + nanos⟩

/-- Whole seconds. -/
def seconds (d : Duration) : Nat := d.nanoseconds / nanosPerSecond

/-- The nanoseconds beyond the whole seconds. -/
def subsecondNanos (d : Duration) : Nat := d.nanoseconds % nanosPerSecond

/-- Whole milliseconds. -/
def millis (d : Duration) : Nat := d.nanoseconds / nanosPerMilli

def isZero (d : Duration) : Bool := d.nanoseconds == 0

@[simp] theorem nanoseconds_ofMillis {ms : Nat} : (ofMillis ms).nanoseconds = ms * 1000000 := rfl

@[simp] theorem millis_ofMillis {ms : Nat} : (ofMillis ms).millis = ms :=
  Nat.mul_div_cancel _ (by decide)

theorem parts_eq {d : Duration} : ofParts d.seconds d.subsecondNanos = d := by
  cases d
  simp [ofParts, seconds, subsecondNanos, Nat.div_add_mod']

/-- The decimals of a fraction of so many places, without the zeros at their end. -/
def decimals (places part : Nat) : List Char :=
  ((Text.digits 10 places part).reverse.dropWhile (· == '0')).reverse

/-- So many nanoseconds in a unit that has `size` of them, a power of ten with `places` zeros. The
decimals follow a point if there are any. -/
def showIn (nanos size places : Nat) (unit : String) : String :=
  let fraction := decimals places (nanos % size)
  toString (nanos / size) ++
    (if fraction.isEmpty then "" else "." ++ String.ofList fraction) ++ unit

/-- The duration in words: `30s`, `1.5s`, `10ms`. -/
def text (d : Duration) : String :=
  let n := d.nanoseconds
  if nanosPerSecond ≤ n then showIn n nanosPerSecond 9 "s"
  else if nanosPerMilli ≤ n then showIn n nanosPerMilli 6 "ms"
  else if nanosPerMicro ≤ n then showIn n nanosPerMicro 3 "µs"
  else showIn n 1 0 "ns"

end Duration

end AdminConsole
