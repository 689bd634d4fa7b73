/-!
# Digits

Numbers of a fixed number of digits, written with the most significant digit first, and the value
of a sequence of digits. Bases up to sixteen are meant; digits above nine are the letters from `a`
on.
-/

namespace AdminConsole.Text

/-- The last `count` digits of `n` in a base. -/
def digits (base : Nat) : Nat → Nat → List Char
  | 0, _ => []
  | count + 1, n => digits base count (n / base) ++ [Nat.digitChar (n % base)]

/-- The number whose digits, the most significant first, have the given values. -/
def ofDigitValues (base : Nat) (ds : List Nat) : Nat := ds.foldl (fun n d => base * n + d) 0

/-- The value of a decimal digit. -/
def decimalValue (c : Char) : Nat := c.toNat - '0'.toNat

/-- The number that a sequence of decimal digits denotes. -/
def decimalNumber (cs : List Char) : Nat := ofDigitValues 10 (cs.map decimalValue)

/-- The value of a hexadecimal digit of either case. -/
def hexValue? (c : Char) : Option Nat :=
  if '0' ≤ c ∧ c ≤ '9' then some (decimalValue c)
  else if 'a' ≤ c ∧ c ≤ 'f' then some (c.toNat - 'a'.toNat + 10)
  else if 'A' ≤ c ∧ c ≤ 'F' then some (c.toNat - 'A'.toNat + 10)
  else none

@[simp] theorem length_digits (base : Nat) : ∀ count n : Nat, (digits base count n).length = count
  | 0, _ => rfl
  | count + 1, n => by simp [digits, length_digits base count]

end AdminConsole.Text
