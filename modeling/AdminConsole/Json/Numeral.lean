import AdminConsole.Text.Digits

/-!
# Numerals

Which written numbers are too large for double precision. A number is taken as a significand of at
most 64 bits times a power of ten: digits that the significand has no room for are dropped, and
those of them that stand before the point still count in the power. The significand and the power of
ten are rounded to double precision each, and then their product is.

Being rounded three times, a number next to the limit may be too large though its exact value is
not, or the other way round.
-/

namespace AdminConsole.Json

/-- A number as it is written, without its sign. -/
structure Numeral where
  /-- The digits before the point. -/
  whole : List Char
  /-- The digits after the point. -/
  fraction : List Char
  /-- The power of ten after an `e`. -/
  power : Int
deriving Repr

namespace Numeral

/-- Appends digits to a significand while it fits into 64 bits, and gives the digits left over. -/
def gather : Nat → List Char → Nat × List Char
  | n, [] => (n, [])
  | n, d :: ds =>
    let m := 10 * n + Text.decimalValue d
    if m < UInt64.size then gather m ds else (n, d :: ds)

/-- The significand and the power of ten that it is multiplied by. -/
def scaled (n : Numeral) : Nat × Int :=
  let (m, dropped) := gather 0 n.whole
  let (m, ignored) := gather m n.fraction
  (m, n.power + dropped.length - (n.fraction.length - ignored.length : Nat))

/-- The number of 53 significant bits that is nearest; of two the one whose last bit is zero. -/
def nearest53 (n : Nat) : Nat :=
  let unit := Nat.pow 2 (n.log2 - 52)
  let below := n / unit
  let rest := 2 * (n % unit)
  let up := unit < rest || (rest == unit && below % 2 == 1)
  (if up then below + 1 else below) * unit

/-- The least number that double precision rounds to infinity. -/
def doubleLimit : Nat := Nat.pow 2 1024 - Nat.pow 2 970

/-- The largest power of ten in double precision. -/
def maxPower : Nat := 308

/-- Whether the number is too large for double precision. -/
def overflows (n : Numeral) : Bool :=
  match n.scaled with
  | (m, .ofNat power) =>
    m ≠ 0 && (maxPower < power || doubleLimit ≤ nearest53 m * nearest53 (Nat.pow 10 power))
  | (_, .negSucc _) => false

end Numeral

end AdminConsole.Json
