-- SUMMARY: Runs of decimal digits and the numbers they write.

/-!
# Decimal digits

The ASCII digits, the longest run of them at the beginning of a text, and the number that a run writes.
What is read as a number must not have too many digits.
-/

namespace LintBridge.Decimal

def isDigit (c : Char) : Bool := '0' ≤ c && c ≤ '9'

/-- The number that digits write. -/
def value (digits : List Char) : Nat := digits.foldl (fun n c => n * 10 + (c.toNat - 48)) 0

/-- The number at the beginning of a text and what follows it. -/
def read? (s : List Char) : Option (Nat × List Char) :=
  let digits := s.takeWhile isDigit
  if digits.isEmpty then none else some (value digits, s.dropWhile isDigit)

/-! ## Number of digits -/

/-- The largest number of digits of an integer that is to be read. -/
def maxDigits : Nat := 4300

/-- An integer has too many digits. -/
structure TooManyDigits where
  count : Nat
  deriving DecidableEq, Repr

def TooManyDigits.message (e : TooManyDigits) : String :=
  s!"Exceeds the limit ({maxDigits} digits) for integer string conversion: value has {e.count} digits; " ++
    "use sys.set_int_max_str_digits() to increase the limit"

/-- Refuses the first of some runs of digits that is too long. -/
def checkLengths (runs : List (List Char)) : Except TooManyDigits Unit :=
  match (runs.map List.length).find? (maxDigits < ·) with
  | some count => .error ⟨count⟩
  | none => .ok ()

end LintBridge.Decimal
