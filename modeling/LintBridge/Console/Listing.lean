-- SUMMARY: Listings of diagnostics as a table with a title.
import LintBridge.Console.Markup
import LintBridge.Console.Message
import LintBridge.Diagnostic
import LintBridge.Json.Printer

/-!
# Listings

A listing shows the diagnostics of one file: its title, the headings of four columns, a rule, and one
row for each diagnostic. Cells are three spaces apart, and every line is as wide as the table. A column
is as wide as its widest cell, unless the console is too narrow for that. Title and cells are shown
without their tags.
-/

namespace LintBridge.Console

structure Column where
  heading : String
  alignment : Alignment
  deriving DecidableEq, Repr

/-- The columns of a listing. -/
def listingColumns : List Column :=
  [⟨"Line", .right⟩, ⟨"Col", .right⟩, ⟨"Rule", .left⟩, ⟨"Message", .left⟩]

/-! ## Cells -/

/-- The width that a cell asks for: that of its widest line. -/
def cellWidth (cell : String) : Nat :=
  ((Text.outputLines (shown cell.toList)).map lineColumns).foldl max 0

/-- The lines of a cell in its column, each as wide as the column. -/
def cellLines (alignment : Alignment) (width : Nat) (cell : String) : List (List Char) :=
  (wrap alignment .ellipsis width cell.toList).map (resize width)

/-! ## Rows -/

/-- The columns of a listing that lie between its cells. -/
def gaps : Nat := 13

/-- The width that a column takes at most. -/
def maxCellWidth : Nat := width - 7

/-- The width that each column asks for: that of its widest cell or its heading. -/
def columnWidths (rows : List (List String)) : List Nat :=
  listingColumns.zipIdx.map fun (column, i) =>
    min maxCellWidth
      ((rows.map fun row => cellWidth (row[i]?.getD "")).foldl max (cellWidth column.heading))

/-- An amount divided by a number, rounded to the nearest, a half to the even neighbour. -/
def roundedShare (amount sharers : Nat) : Nat :=
  let share := amount / sharers
  let rest := 2 * (amount % sharers)
  if sharers < rest || (rest = sharers && share % 2 = 1) then share + 1 else share

/-- An amount taken from the widths that are `top`, `sharers` in number: each gives an equal share of
what is left to take, and at most `limit`. -/
def takeShares (top limit : Nat) (amount sharers : Nat) : List Nat → List Nat
  | [] => []
  | w :: rest =>
    if w = top then
      let share := min limit (roundedShare amount sharers)
      (w - share) :: takeShares top limit (amount - share) (sharers - 1) rest
    else w :: takeShares top limit amount sharers rest

/-- The sum of widths. -/
def totalOf (widths : List Nat) : Nat := widths.foldl (· + ·) 0

/-- Widths made narrower until their sum is at most `limit`: the widest ones first, down to the next
widest. Each round but the last makes one more width one of the widest, so `rounds` is their number. -/
def narrowedIn (limit : Nat) : Nat → List Nat → List Nat
  | 0, widths => widths
  | rounds + 1, widths =>
    if totalOf widths ≤ limit then widths
    else
      let top := widths.foldl max 0
      let next := (widths.filter (· ≠ top)).foldl max 0
      let excess := totalOf widths - limit
      narrowedIn limit rounds (takeShares top (min excess (top - next)) excess (widths.count top) widths)

/-- Widths made narrower until their sum is at most `limit`. -/
def narrowed (limit : Nat) (widths : List Nat) : List Nat := narrowedIn limit widths.length widths

/-- The lines of a row: as many as its highest cell has, with blank lines below the others. -/
def rowLines (widths : List Nat) (row : List String) : List (List Char) :=
  let cells := (listingColumns.zip (widths.zip row)).map fun (column, width, cell) =>
    (width, cellLines column.alignment width cell)
  let height := (cells.map (·.2.length)).foldl max 0
  (List.range height).map fun i =>
    let parts := cells.map fun (width, lines) => lines[i]?.getD (spaces width)
    spaces 2 ++ List.intercalate (spaces 3) parts ++ spaces 2

/-- The cells for the place of a diagnostic, counted from one. -/
def placeCells (d : Diagnostic) : List String :=
  [String.ofList (Json.printInt (d.range.start.line + 1)),
    String.ofList (Json.printInt (d.range.start.character + 1))]

/-- The lines of a listing of a title and rows. -/
def listingLines (title : String) (rows : List (List String)) : List (List Char) :=
  let widths := narrowed (width - gaps) (columnWidths rows)
  let total := totalOf widths + gaps
  let line := [' '] ++ List.replicate (total - 2) '\u2500' ++ [' ']
  wrap .centre .fold total title.toList ++ [spaces total]
    ++ rowLines widths (listingColumns.map (·.heading)) ++ [line]
    ++ rows.flatMap (rowLines widths) ++ [spaces total]

/-- The rows of diagnostics without tags. The names of all rules come before the messages: of two faults
the one in the earlier column counts. -/
def shownRows (ds : List Diagnostic) : Except MarkupError (List (List String)) := do
  let codes ← ds.mapM fun d => withoutTags (d.code.getD []).shown
  let messages ← ds.mapM fun d => withoutTags d.message.shown
  return (ds.zip (codes.zip messages)).map fun (d, code, message) => placeCells d ++ [code, message]

/-- The lines of a listing. -/
def listing (title : String) (ds : List Diagnostic) : Except MarkupError (List (List Char)) := do
  let rows ← shownRows ds
  let shownTitle ← withoutTags title
  let cells := ds.flatMap fun d => [(d.code.getD []).shown, d.message.shown]
  match (title :: cells).findSome? lateColorFault? with
  | some cause => throw (.color cause)
  | none => return listingLines shownTitle rows

end LintBridge.Console
