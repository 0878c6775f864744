-- SUMMARY: Lint failures, their places in the text, and the replacements that fix them.
import LintBridge.Text.Codes

/-!
# Failures

A failure is one rule violation as the linting library reports it. Its fix, when there is one, is an
ordered list of replacements over the text that was linted, counted in UTF-16 units.
-/

namespace LintBridge

/-- A place in the linted text: its offset, and the line and character that the library counts. -/
structure SourcePosition where
  offset : Nat
  line : Nat
  character : Nat
  deriving DecidableEq, Repr

/-- The span from `start` up to `stop` of the text, and the text to put in its place. -/
structure Replacement where
  start : Nat
  stop : Nat
  text : Text.Codes
  start_le_stop : start ≤ stop
  deriving DecidableEq, Repr

/-- The number of units that a replacement takes out. -/
def Replacement.length (r : Replacement) : Nat := r.stop - r.start

/-- A rule violation. -/
structure Failure where
  message : Text.Codes
  /-- The rule that was violated, if the library names one. -/
  rule : Option Text.Codes
  start : SourcePosition
  stop : SourcePosition
  /-- The replacements of the fix; `none` when the rule offers no fix. -/
  fix : Option (List Replacement)
  deriving DecidableEq, Repr

end LintBridge
