-- SUMMARY: Text edits and the application of one batch of them to a snapshot.
import LintBridge.Text.Codes
import LintBridge.Text.Snapshot

/-!
# Edits

All edits of a batch are placed in the same snapshot. They are ordered by the offsets of their two
ends, edits with equal ends in the order given, and applied in one pass over the text. A batch is
refused when an edit begins before the end of an earlier one, or when a kept piece would begin or
end inside a surrogate pair.
-/

namespace LintBridge.Text

/-- A range of a document and the text to put in its place. -/
structure TextEdit where
  range : Range
  newText : Codes
  deriving DecidableEq, Repr

/-- An edit placed by offsets. -/
structure Span where
  start : Nat
  stop : Nat
  newText : Codes
  deriving DecidableEq, Repr

/-- The end at which a piece parts a surrogate pair. -/
inductive Cut where
  | atStart
  /-- At the end of a piece of that many units. -/
  | atEnd (length : Nat)
  deriving DecidableEq, Repr

/-- Why a batch of edits cannot be applied. -/
inductive ApplyError where
  /-- An edit begins at `offset`, before the end of an earlier one. -/
  | overlap (offset : Nat)
  /-- A kept piece begins or ends inside a surrogate pair. -/
  | splitPair (cut : Cut)
  deriving DecidableEq, Repr

/-- A parted pair is reported by its place in the bytes of the piece, two for each unit. -/
def ApplyError.message : ApplyError → String
  | .overlap offset => s!"overlapping edits at offset {offset}"
  | .splitPair .atStart => "'utf-16-le' codec can't decode bytes in position 0-1: illegal encoding"
  | .splitPair (.atEnd length) =>
    let last := 2 * length - 1
    s!"'utf-16-le' codec can't decode bytes in position {last - 1}-{last}: unexpected end of data"

namespace Span

/-- Order by start, then by end. -/
def le (a b : Span) : Bool := a.start < b.start || (a.start == b.start && a.stop ≤ b.stop)

def ofEdit (s : Snapshot) (e : TextEdit) : Span :=
  ⟨s.offsetAt e.range.start, s.offsetAt e.range.stop, e.newText⟩

/-- The spans of a batch in the order in which they are applied. The sort is stable. -/
def ordered (s : Snapshot) (edits : List TextEdit) : List Span :=
  (edits.map (ofEdit s)).mergeSort le

end Span

/-- Where the piece between two offsets parts a surrogate pair, if it does. -/
def Snapshot.cut (s : Snapshot) (start stop : Nat) : Cut :=
  if (units s.text)[start]?.any isLowSurrogate then .atStart else .atEnd (stop - start)

/-- The kept piece between two offsets. -/
def Snapshot.keep (s : Snapshot) (start stop : Nat) : Except ApplyError (List Char) :=
  match s.slice? start stop with
  | some piece => .ok piece
  | none => .error (.splitPair (s.cut start stop))

/-- The text from `cursor` on with ordered spans replaced. -/
def Snapshot.weave (s : Snapshot) (cursor : Nat) : List Span → Except ApplyError Codes
  | [] => do return .ofChars (← s.keep cursor s.length)
  | span :: rest =>
    if span.start < cursor then .error (.overlap span.start)
    else do
      let kept ← s.keep cursor span.start
      let after ← s.weave (max cursor span.stop) rest
      return .ofChars kept ++ span.newText ++ after

/-- The text of the snapshot with a batch of edits applied. -/
def Snapshot.apply (s : Snapshot) (edits : List TextEdit) : Except ApplyError Codes :=
  s.weave 0 (Span.ordered s edits)

end LintBridge.Text
