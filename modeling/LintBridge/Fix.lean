-- SUMMARY: The edits that fix a document, tied to the version they were computed for.
import LintBridge.Failure.Basic
import LintBridge.Text.Edit

/-!
# Fixes

The replacements of fixable failures become text edits over the snapshot that was linted, in the order
of the failures and then of their replacements. Overlapping edits are passed on as they are. A fix
result carries the version of the document, so that a later version can refuse it.
-/

namespace LintBridge

open Text

/-- The edits for one document at one version. -/
structure FixResult where
  version : Int
  edits : List TextEdit
  /-- The rule that the edits were restricted to. -/
  rule : Option Codes
  deriving DecidableEq, Repr

/-- Whether a version is the one that the edits were computed for. -/
def FixResult.isCurrent (r : FixResult) (version : Int) : Bool := r.version == version

/-- The edit of a replacement. -/
def Replacement.toEdit (s : Snapshot) (r : Replacement) : Except PositionError TextEdit := do
  let start ← s.positionAt r.start
  let stop ← s.positionAt r.stop
  return ⟨⟨start, stop⟩, r.text⟩

/-- The failures of a rule, or all of them when no rule is given. -/
def selectRule (rule : Option Codes) (fs : List Failure) : List Failure :=
  match rule with
  | none => fs
  | some _ => fs.filter (·.rule == rule)

/-- The replacements of failures, in order. -/
def replacementsOf (fs : List Failure) : List Replacement := fs.flatMap fun f => f.fix.getD []

/-- The edits that fix the failures of a rule in a snapshot. -/
def FixResult.ofFailures (s : Snapshot) (version : Int) (rule : Option Codes) (fs : List Failure) :
    Except PositionError FixResult := do
  let edits ← (replacementsOf (selectRule rule fs)).mapM (Replacement.toEdit s)
  return { version, edits, rule }

end LintBridge
