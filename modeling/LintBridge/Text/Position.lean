-- SUMMARY: Positions and ranges of an editor, with the bound that the editor protocol sets on their numbers.

/-!
# Positions

A position is a line and a character, both counted from zero, the character in UTF-16 units. The
editor protocol writes both as 31-bit numbers, so a position carries that bound and `Position.of?`
refuses any other pair, naming the line first.
-/

namespace LintBridge.Text

/-- A place in a document as an editor counts it. -/
structure Position where
  line : Nat
  character : Nat
  line_lt : line < 0x80000000
  character_lt : character < 0x80000000
  deriving DecidableEq, Repr

/-- The part of a position that is out of bounds, with its value. -/
inductive PositionError where
  | line (value : Int)
  | character (value : Int)
  deriving DecidableEq, Repr

def PositionError.message : PositionError → String
  | .line value => s!"Position.line should be in range [0:2147483647], but was {value}."
  | .character value => s!"Position.character should be in range [0:2147483647], but was {value}."

/-- The position at the given line and character, if the editor protocol can write it. -/
def Position.of? (line character : Int) : Except PositionError Position :=
  if hl : 0 ≤ line ∧ line < 0x80000000 then
    if hc : 0 ≤ character ∧ character < 0x80000000 then
      .ok ⟨line.toNat, character.toNat, by omega, by omega⟩
    else .error (.character character)
  else .error (.line line)

/-- The span from one position up to another. -/
structure Range where
  start : Position
  stop : Position
  deriving DecidableEq, Repr

theorem Position.of?_eq_ok {line character : Int} {p : Position}
    (h : Position.of? line character = .ok p) : line = p.line ∧ character = p.character := by
  unfold Position.of? at h
  split at h
  · split at h
    · cases h; constructor <;> simp <;> omega
    · cases h
  · cases h

theorem Position.of?_self (p : Position) : Position.of? p.line p.character = .ok p := by
  have := p.line_lt
  have := p.character_lt
  unfold Position.of?
  rw [dif_pos (by omega), dif_pos (by omega)]
  simp

end LintBridge.Text
