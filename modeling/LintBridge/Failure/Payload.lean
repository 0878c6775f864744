-- SUMMARY: Reading of failures and fixes from the values that the library reports.
import LintBridge.Failure.Basic
import LintBridge.Validation

/-!
# Failure payloads

The library reports a fix in one of three shapes: an object with a list of replacements, a list of
replacements, or a single replacement. A replacement is written with its inner fields, with its start
and end, or with its start and length. All of them are read into one form. Numbers may be written with
a point if they are whole; booleans are never numbers.
-/

namespace LintBridge

open Json

/-! ## Errors -/

/-- One of the two ends of a failure. -/
inductive Boundary where
  | start | stop
  deriving DecidableEq, Repr

def Boundary.name : Boundary → String
  | .start => "start"
  | .stop => "end"

/-- Why a reported value is not a list of failures. -/
inductive PayloadError where
  | notList
  | failureNotObject (kind : Kind)
  | positionMissing (boundary : Boundary)
  | positionIncomplete (boundary : Boundary) (members : Members)
  | positionRefused (report : Report)
  | fixNotList (kind : Kind)
  | replacementNotObject (kind : Kind)
  | replacementWithoutSpan (members : Members)
  | replacementRefused (members : Members) (report : Report)
  deriving Repr

def PayloadError.message : PayloadError → String
  | .notList => "lint result must be a list of failures"
  | .failureNotObject kind => s!"failure must be an object, got {kind.name}"
  | .positionMissing boundary => s!"failure {boundary.name} position missing"
  | .positionIncomplete boundary members =>
    s!"failure {boundary.name} position incomplete: " ++ (Value.object members).display
  | .positionRefused report => report.message
  | .fixNotList kind => s!"fix replacements must be a list, got {kind.name}"
  | .replacementNotObject kind => s!"replacement must be an object, got {kind.name}"
  | .replacementWithoutSpan members => "replacement without a span: " ++ (Value.object members).display
  | .replacementRefused members report =>
    "invalid replacement " ++ (Value.object members).display ++ ": " ++ report.message

/-! ## Scalars -/

/-- The integer that a value stands for. -/
def Json.Value.asInt? : Value → Option Int
  | .int i => some i
  | .float x => x.toInt?
  | _ => none

/-- The text that a value stands for; null stands for none. -/
def Json.Value.asText? : Value → Option Text.Codes
  | .null => none
  | v => some v.plain

/-- A field that must not be negative, if it is. -/
def negativeField? (field : String) (i : Int) : Option Violation :=
  if i < 0 then some ⟨some field, .atLeast 0, .int i⟩ else none

/-! ## Replacements and fixes -/

/-- The replacement of a span, or a report on what is wrong with it. -/
def Replacement.of? (start stop : Int) (text : Text.Codes) : Except Report Replacement :=
  let refused := [negativeField? "start" start, negativeField? "end" stop].filterMap id
  if h : 0 ≤ start ∧ 0 ≤ stop then
    if ho : start ≤ stop then .ok ⟨start.toNat, stop.toNat, text, by omega⟩
    else
      let input := Value.object [("start", .int start), ("end", .int stop), ("text", .text text)]
      .error ⟨"Replacement", [⟨none, .rule s!"replacement end {stop} precedes start {start}", input⟩]⟩
  else .error ⟨"Replacement", refused⟩

/-- The start and length that the members of a replacement give, and the value of its text. -/
def replacementSpan (ms : Members) : Option Int × Option Int × Value :=
  if (member? ms "innerStart").isSome then
    ((member ms "innerStart").asInt?, (member ms "innerLength").asInt?, member ms "innerText")
  else
    let start := (member ms "start").asInt?
    let length := match start, (member ms "end").asInt? with
      | some start, some stop => some (stop - start)
      | _, _ => (member ms "length").asInt?
    (start, length, member ms "text")

/-- The replacement that a value writes. -/
def parseReplacement : Value → Except PayloadError Replacement
  | .object ms =>
    match replacementSpan ms with
    | (some start, some length, text) =>
      (Replacement.of? start (start + length) (text.asText?.getD "")).mapError
        (.replacementRefused ms)
    | _ => .error (.replacementWithoutSpan ms)
  | v => .error (.replacementNotObject v.kind)

/-- The items of a fix in any of its shapes. -/
def fixItems : Value → Except PayloadError (List Value)
  | .object ms =>
    match member? ms "replacements" with
    | none => .ok [.object ms]
    | some (.list items) => .ok items
    | some v => if v.isTruthy then .error (.fixNotList v.kind) else .ok []
  | .list items => .ok items
  | v => .ok [v]

/-- The replacements of a fix, in order; null stands for no fix. -/
def parseFix : Value → Except PayloadError (Option (List Replacement))
  | .null => .ok none
  | v => do
    let items ← fixItems v
    let replacements ← items.mapM parseReplacement
    return some replacements

/-! ## Failures -/

/-- The place with the given numbers, or a report on those that are negative. -/
def SourcePosition.of? (offset line character : Int) : Except Report SourcePosition :=
  let refused := [negativeField? "offset" offset, negativeField? "line" line,
    negativeField? "character" character].filterMap id
  if refused.isEmpty then .ok ⟨offset.toNat, line.toNat, character.toNat⟩
  else .error ⟨"SourcePosition", refused⟩

/-- The place that a value writes. -/
def parsePosition (boundary : Boundary) : Value → Except PayloadError SourcePosition
  | .object ms =>
    match (member ms "position").asInt?, (member ms "line").asInt?, (member ms "character").asInt? with
    | some offset, some line, some character =>
      (SourcePosition.of? offset line character).mapError .positionRefused
    | _, _, _ => .error (.positionIncomplete boundary ms)
  | _ => .error (.positionMissing boundary)

/-- The failure that a value writes. -/
def parseFailure : Value → Except PayloadError Failure
  | .object ms => do
    let start ← parsePosition .start (memberOr ms "start" "startPosition")
    let stop ← parsePosition .stop (memberOr ms "end" "endPosition")
    let fix ← parseFix (member ms "fix")
    return {
      message := (memberOr ms "message" "failure").asText?.getD ""
      rule := (member ms "ruleName").asText?.filter (!·.isEmpty)
      start, stop, fix }
  | v => .error (.failureNotObject v.kind)

/-- The failures that a lint result writes, in order. -/
def parseFailures : Value → Except PayloadError (List Failure)
  | .list items => items.mapM parseFailure
  | _ => .error .notList

end LintBridge
