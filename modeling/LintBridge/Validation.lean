-- SUMMARY: Reports on the fields that a value was refused for.
import LintBridge.Json.Display
import LintBridge.Number.Decimal
import LintBridge.Text.Utf8

/-!
# Validation reports

A report names the form that was being filled, and for each refused field what is wrong with its value.
A violation of the form as a whole has no field. Values whose text is longer than fifty bytes are shown
by their first twenty-five and last twenty-four bytes, and an integer with too many digits is not shown.
-/

namespace LintBridge

open Json

/-- What is wrong with a value. -/
inductive Problem where
  | text
  /-- A surrogate stands in the text without its partner. -/
  | notUnicode
  | int
  | intFraction
  | intUnreadable
  /-- The integer is too large to be taken from a value of another kind. -/
  | intSize
  | notFinite
  | float
  | floatUnreadable
  | bool
  | boolUnreadable
  | atLeast (bound : Int)
  | above (bound : Int)
  /-- A rule of the form as a whole is broken. -/
  | rule (reason : String)
  deriving DecidableEq, Repr

namespace Problem

def message : Problem → String
  | .text => "Input should be a valid string"
  | .notUnicode => "Input should be a valid string, unable to parse raw data as a unicode string"
  | .int => "Input should be a valid integer"
  | .intFraction => "Input should be a valid integer, got a number with a fractional part"
  | .intUnreadable => "Input should be a valid integer, unable to parse string as an integer"
  | .intSize => "Unable to parse input string as an integer, exceeded maximum size"
  | .notFinite => "Input should be a finite number"
  | .float => "Input should be a valid number"
  | .floatUnreadable => "Input should be a valid number, unable to parse string as a number"
  | .bool => "Input should be a valid boolean"
  | .boolUnreadable => "Input should be a valid boolean, unable to interpret input"
  | .atLeast bound => s!"Input should be greater than or equal to {bound}"
  | .above bound => s!"Input should be greater than {bound}"
  | .rule reason => s!"Value error, {reason}"

/-- The short name of a problem. -/
def code : Problem → String
  | .text => "string_type"
  | .notUnicode => "string_unicode"
  | .int => "int_type"
  | .intFraction => "int_from_float"
  | .intUnreadable => "int_parsing"
  | .intSize => "int_parsing_size"
  | .notFinite => "finite_number"
  | .float => "float_type"
  | .floatUnreadable => "float_parsing"
  | .bool => "bool_type"
  | .boolUnreadable => "bool_parsing"
  | .atLeast _ => "greater_than_equal"
  | .above _ => "greater_than"
  | .rule _ => "value_error"

end Problem

/-- The longest beginning of a text that takes at most `room` bytes. -/
def leadingBytes (room : Nat) : List Char → List Char
  | [] => []
  | c :: rest =>
    let size := (String.utf8EncodeChar c).length
    if size ≤ room then c :: leadingBytes (room - size) rest else []

/-- A text, with its middle left out when it is longer than fifty bytes. -/
def abbreviated (s : List Char) : List Char :=
  if (Text.Utf8.encode s).length ≤ 50 then s
  else leadingBytes 25 s ++ "...".toList ++ (leadingBytes 24 s.reverse).reverse

/-- A value in a report. An integer with too many digits has no text, only a kind. -/
def shownValue (v : Value) : List Char :=
  match v with
  | .int i =>
    if i.natAbs < Nat.pow 10 Decimal.maxDigits then abbreviated (describe v)
    else s!"<unprintable {v.kind.name} object>".toList
  | _ => abbreviated (describe v)

/-- A refused value, with the field it was meant for. -/
structure Violation where
  field : Option String
  problem : Problem
  input : Value
  deriving Repr

def Violation.message (v : Violation) : String :=
  let place := match v.field with
    | some field => "\n" ++ field
    | none => ""
  let problem := v.problem.message
  let code := v.problem.code
  let input := String.ofList (shownValue v.input)
  let kind := v.input.kind.name
  s!"{place}\n  {problem} [type={code}, input_value={input}, input_type={kind}]"

/-- The violations found while a form was filled, in the order of its fields. -/
structure Report where
  form : String
  violations : List Violation
  deriving Repr

def Report.message (r : Report) : String :=
  let count := r.violations.length
  let noun := if count = 1 then "error" else "errors"
  let details := String.join (r.violations.map Violation.message)
  s!"{count} validation {noun} for {r.form}{details}"

end LintBridge
