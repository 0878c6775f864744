-- SUMMARY: The line table of a fixed text, and the conversions between offsets and positions.
import LintBridge.Text.Utf16
import LintBridge.Text.Position

/-!
# Snapshots

A snapshot is a text as it was linted, with a table of its lines. CR LF, a single LF and a single CR
each end a line. Offsets and characters count UTF-16 units. An offset out of range stands for the
nearest end of the text, and a character past the end of a line for the end of that line before its
break.
-/

namespace LintBridge.Text

/-- Where a line begins, and where its content ends before its break. -/
structure Line where
  start : Nat
  stop : Nat
  deriving DecidableEq, Repr

/-- The lines of the rest of a text, when the current line began at `start` and the rest begins
at offset `here`. -/
def linesFrom (start here : Nat) : List Char → List Line
  | [] => [⟨start, here⟩]
  | '\r' :: '\n' :: rest => ⟨start, here⟩ :: linesFrom (here + 2) (here + 2) rest
  | c :: rest =>
    if c = '\r' ∨ c = '\n' then ⟨start, here⟩ :: linesFrom (here + 1) (here + 1) rest
    else linesFrom start (here + width c) rest

/-- A text with its line table. -/
structure Snapshot where
  text : List Char
  deriving DecidableEq, Repr

namespace Snapshot

def ofString (text : String) : Snapshot := ⟨text.toList⟩

/-- Length in UTF-16 units. -/
def length (s : Snapshot) : Nat := unitLength s.text

def lines (s : Snapshot) : List Line := linesFrom 0 0 s.text

def lineCount (s : Snapshot) : Nat := s.lines.length

/-- The offset within the text that is nearest to `offset`. -/
def clamp (s : Snapshot) (offset : Int) : Nat := (max 0 (min offset s.length)).toNat

/-- The position of an offset: the last line that begins at or before it, and the units from there. -/
def positionAt (s : Snapshot) (offset : Int) : Except PositionError Position :=
  let here := s.clamp offset
  let begun := s.lines.takeWhile (·.start ≤ here)
  let start := (begun.getLast?.map (·.start)).getD 0
  Position.of? ((begun.length : Int) - 1) ((here : Int) - start)

/-- The offset of a position. -/
def offsetAt (s : Snapshot) (p : Position) : Nat :=
  match s.lines[p.line]? with
  | none => s.length
  | some line => min (line.start + p.character) line.stop

/-- The text between two offsets, counted from the end when negative. -/
def slice? (s : Snapshot) (start stop : Int) : Option (List Char) := Text.slice? s.text start stop

end Snapshot

theorem linesFrom_ne_nil (start here : Nat) (s : List Char) : linesFrom start here s ≠ [] := by
  fun_induction linesFrom start here s <;> simp_all

/-- A text has at least one line. -/
theorem Snapshot.lineCount_pos (s : Snapshot) : 0 < s.lineCount :=
  List.length_pos_iff.2 (linesFrom_ne_nil 0 0 s.text)

end LintBridge.Text
