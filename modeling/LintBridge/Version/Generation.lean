-- SUMMARY: The two generations of the library's interface, and how a declared version tells them apart.
import LintBridge.Version.Basic
import LintBridge.Text.Digit

/-!
# Generations

Releases up to 3 have the legacy interface, later ones the modern interface. A version is declared in
free text: if it holds a run of numbers joined by points, the first such run is the version, and else
the whole text is. A library that declares nothing is legacy, one whose declaration cannot be read is
modern. A number with too many digits is an error.
-/

namespace LintBridge

/-- The shape of a library's interface. -/
inductive Generation where
  | legacy | modern
  deriving DecidableEq, Repr

def Generation.name : Generation → String
  | .legacy => "legacy"
  | .modern => "modern"

namespace Version

/-! ## The version in a text -/

/-- The longest sequence of a point and digits, repeated. `fuel` bounds the repetitions by the length
of the text. -/
def dottedTail : Nat → List Char → List Char
  | fuel + 1, '.' :: rest =>
    let digits := rest.takeWhile Text.isDecimalDigit
    if digits.isEmpty then []
    else '.' :: (digits ++ dottedTail fuel (rest.dropWhile Text.isDecimalDigit))
  | _, _ => []

/-- The dotted run at the beginning of a text: digits, and at least one point with more digits. -/
def dottedPrefix? (s : List Char) : Option (List Char) :=
  let digits := s.takeWhile Text.isDecimalDigit
  let tail := dottedTail s.length (s.dropWhile Text.isDecimalDigit)
  if digits.isEmpty || tail.isEmpty then none else some (digits ++ tail)

/-- The first dotted run of a text. -/
def dottedRun? : List Char → Option (List Char)
  | [] => none
  | c :: rest =>
    match dottedPrefix? (c :: rest) with
    | some run => some run
    | none => dottedRun? rest

/-- The part of a text that is to be read as a version. -/
def candidate (raw : List Char) : List Char := (dottedRun? raw).getD (Text.trim Text.isBlank raw)

/-- The version text in a declaration, if it is a version. -/
def normalize (rule : CaseRule) (raw : String) : Except Decimal.TooManyDigits (Option String) := do
  if raw.isEmpty then return none
  let found := candidate raw.toList
  return (← ofText rule found).map fun _ => String.ofList found

end Version

/-! ## Classification -/

/-- The last major release with the legacy interface. -/
def lastLegacyMajor : Nat := 3

/-- The version of a library that declares none. -/
def fallbackVersion : String := "1.0.0"

/-- The generation of a version text; a missing or empty one stands for the fallback. -/
def Generation.ofVersion (rule : Version.CaseRule) (version : Option String) :
    Except Decimal.TooManyDigits Generation := do
  match ← Version.ofText rule ((version.filter (!·.isEmpty)).getD fallbackVersion).toList with
  | some v => return if v.major ≤ lastLegacyMajor then .legacy else .modern
  | none => return .modern

end LintBridge
