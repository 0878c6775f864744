-- SUMMARY: Texts as lines of a limited number of columns.
import LintBridge.Console.Cluster
import LintBridge.Text.Blank
import LintBridge.Text.Pieces

/-!
# Wrapping

A text is shown line by line, with five control characters left out and tabs filled up to the next
eighth column. A line that is too long is broken between words. A word that is too long for any line is
folded, or cut with an ellipsis at its end. Blanks that do not fit at the end of a line are left out.
-/

namespace LintBridge.Console

open Text (isBlank pieces)

/-! ## Control characters and tabs -/

/-- The control characters that are never shown: bell, backspace, vertical tab, form feed and carriage
return. -/
def isDropped (c : Char) : Bool :=
  let n := c.toNat
  n == 7 || n == 8 || n == 11 || n == 12 || n == 13

/-- A text without the characters that are never shown. -/
def shown (s : List Char) : List Char := s.filter (!isDropped ·)

/-- Pieces between tabs joined by spaces up to the next eighth column: a space for the tab, and more if
the next eighth column is not reached by it. `column` is where the first piece begins. -/
def fillTabs (column : Nat) : List (List Char) → List Char
  | [] => []
  | [piece] => piece
  | piece :: rest =>
    let reached := column + lineColumns (piece ++ [' '])
    let next := (reached + 7) / 8 * 8
    piece ++ ' ' :: spaces (next - reached) ++ fillTabs next rest

/-- A line with its tabs written as spaces. -/
def expandTabs (line : List Char) : List Char := fillTabs 0 (pieces '\t' line)

/-! ## Breaking of lines -/

/-- What becomes of a word that is too long for any line. -/
inductive Overflow where
  | fold | ellipsis
  deriving DecidableEq, Repr

/-- A text without the blanks at its end. -/
def trimEnd (s : List Char) : List Char := (s.reverse.dropWhile isBlank).reverse

/-- The words of a line, each with the blanks after it, the first one also with those before it. -/
def words (s : List Char) : List (List Char) :=
  let lead := s.takeWhile isBlank
  match _h : s.dropWhile isBlank with
  | [] => []
  | c :: rest =>
    let body := rest.takeWhile (!isBlank ·)
    let after := rest.dropWhile (!isBlank ·)
    (lead ++ c :: body ++ after.takeWhile isBlank) :: words (after.dropWhile isBlank)
termination_by s.length
decreasing_by
  have h₁ := (List.dropWhile_suffix isBlank (l := s)).length_le
  have h₂ := (List.dropWhile_suffix (!isBlank ·) (l := rest)).length_le
  have h₃ := (List.dropWhile_suffix isBlank (l := rest.dropWhile (!isBlank ·))).length_le
  simp only [_h, List.length_cons] at h₁
  omega

/-- Words put on lines, `line` being the current one and `used` its number of columns. -/
def fillLines (overflow : Overflow) (width : Nat) (line : List Char) (used : Nat) :
    List (List Char) → List (List Char)
  | [] => [line]
  | word :: rest =>
    let size := lineColumns (trimEnd word)
    let before := if line.isEmpty then [] else [line]
    if used + size ≤ width then
      fillLines overflow width (line ++ word) (used + lineColumns word) rest
    else if size ≤ width || overflow = .ellipsis then
      before ++ fillLines overflow width word (lineColumns word) rest
    else
      let parts := chunks width 0 [] (clusters word)
      let last := parts.getLast?.getD []
      before ++ parts.dropLast ++ fillLines overflow width last (lineColumns last) rest

/-- A line without the blanks that do not fit at its end; each character counts as one column. -/
def cropBlanks (width : Nat) (line : List Char) : List Char :=
  let blanks := (line.reverse.takeWhile isBlank).length
  line.take (line.length - min blanks (line.length - width))

/-- A line cut to a number of columns. -/
def Overflow.cut (overflow : Overflow) (width : Nat) (line : List Char) : List Char :=
  if lineColumns line ≤ width then line
  else match overflow with
    | .fold => resize width line
    | .ellipsis => resize (width - 1) line ++ ['\u2026']

/-! ## Alignment -/

/-- Where a line stands in its width. -/
inductive Alignment where
  | free | left | right | centre
  deriving DecidableEq, Repr

/-- A line in its place. A free line is not filled up; an odd space stands behind a line in the
middle. -/
def Alignment.place (alignment : Alignment) (overflow : Overflow) (width : Nat) (line : List Char) :
    List Char :=
  match alignment with
  | .free => line
  | .left =>
    overflow.cut width line ++ spaces (width - lineColumns line)
  | .right =>
    let line := overflow.cut width (trimEnd line)
    spaces (width - lineColumns line) ++ line
  | .centre =>
    let line := overflow.cut width (trimEnd line)
    let line := spaces ((width - lineColumns line) / 2) ++ line
    line ++ spaces (width - lineColumns line)

/-- A line as lines of a number of columns. -/
def wrapLine (alignment : Alignment) (overflow : Overflow) (width : Nat) (line : List Char) :
    List (List Char) :=
  let line := expandTabs line
  let lines := match words line with
    | [] => [line]
    | ws => fillLines overflow width [] 0 ws
  lines.map fun l => overflow.cut width (alignment.place overflow width (cropBlanks width l))

/-- A text as lines of a number of columns. -/
def wrap (alignment : Alignment) (overflow : Overflow) (width : Nat) (s : List Char) :
    List (List Char) :=
  (pieces '\n' (shown s)).flatMap (wrapLine alignment overflow width)

end LintBridge.Console
