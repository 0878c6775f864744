-- SUMMARY: Hexadecimal digits.

/-!
# Hexadecimal digits

Digits are read in either case and written in the case asked for, with a fixed count.
-/

namespace LintBridge.Hex

/-- The value of a digit. -/
def digit? (c : Char) : Option Nat :=
  if '0' ≤ c ∧ c ≤ '9' then some (c.toNat - 48)
  else if 'a' ≤ c ∧ c ≤ 'f' then some (c.toNat - 87)
  else if 'A' ≤ c ∧ c ≤ 'F' then some (c.toNat - 55)
  else none

/-- The last `count` digits of a number, in lower case. -/
def lower : Nat → Nat → List Char
  | 0, _ => []
  | count + 1, n => lower count (n / 16) ++ [Nat.digitChar (n % 16)]

/-- The last `count` digits of a number, in upper case. -/
def upper (count n : Nat) : List Char := (lower count n).map Char.toUpper

end LintBridge.Hex
