-- SUMMARY: Editor diagnostics and how lint failures become diagnostics.
import LintBridge.Failure.Basic
import LintBridge.Text.Position

/-!
# Diagnostics

A diagnostic shows one failure in the editor, always as a warning. Its range is the line and character
that the library counted, and its message ends with the rule's name.
-/

namespace LintBridge

/-- What an editor shows at a range of a document. -/
structure Diagnostic where
  range : Text.Range
  message : Text.Codes
  /-- The rule that was violated. -/
  code : Option Text.Codes
  source : String
  deriving DecidableEq, Repr

/-- The severity of every diagnostic, as the editor protocol numbers it: a warning. -/
def Diagnostic.severity : Nat := 2

/-- The message of a failure, followed by its rule in parentheses. -/
def Failure.summary (f : Failure) : Text.Codes :=
  match f.rule with
  | some rule => if rule.isEmpty then f.message else f.message ++ " (" ++ rule ++ ")"
  | none => f.message

/-- The place of an end of a failure as an editor counts it. -/
def SourcePosition.inEditor (p : SourcePosition) : Except Text.PositionError Text.Position :=
  Text.Position.of? p.line p.character

/-- The diagnostic of a failure. -/
def Diagnostic.ofFailure (source : String) (f : Failure) : Except Text.PositionError Diagnostic := do
  let start ← f.start.inEditor
  let stop ← f.stop.inEditor
  return { range := ⟨start, stop⟩, message := f.summary, code := f.rule, source }

/-- The diagnostics of failures, one for each and in the same order. -/
def Diagnostic.ofFailures (source : String) (fs : List Failure) :
    Except Text.PositionError (List Diagnostic) :=
  fs.mapM (Diagnostic.ofFailure source)

end LintBridge
