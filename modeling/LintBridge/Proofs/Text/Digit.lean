-- SUMMARY: How digits, ASCII characters and blanks relate, and where a run of characters stops.
import LintBridge.Number.Decimal
import LintBridge.Text.Blank
import LintBridge.Text.Digit
import Mathlib.Data.List.TakeWhile

/-!
# Digits

The decimal digits of all scripts that are ASCII characters are the ASCII digits, and no blank is a digit. A run
of characters of a class is taken as a whole where the text stops after it.
-/

namespace LintBridge.Text

variable {c : Char}

/-! ## Classes of characters -/

def isAscii (c : Char) : Bool := c.toNat < 128

theorem isDigit_iff : Decimal.isDigit c ↔ 48 ≤ c.toNat ∧ c.toNat ≤ 57 := by
  simp only [Decimal.isDigit, Bool.and_eq_true, decide_eq_true_eq]
  rfl

theorem isAscii_of_isDigit (h : Decimal.isDigit c) : isAscii c := by
  have hbounds := isDigit_iff.1 h
  simp only [isAscii, decide_eq_true_eq]
  omega

theorem isDecimalDigit_iff_of_isAscii (h : isAscii c) : isDecimalDigit c ↔ Decimal.isDigit c := by
  have hall : ∀ n < 128, inTable digitRanges n ↔ 48 ≤ n ∧ n ≤ 57 := by decide +kernel
  rw [isDigit_iff]
  exact hall _ (by simpa [isAscii] using h)

theorem isDecimalDigit_of_isDigit (h : Decimal.isDigit c) : isDecimalDigit c :=
  (isDecimalDigit_iff_of_isAscii (isAscii_of_isDigit h)).2 h

theorem toLower_of_not_upper (h : c.toNat < 65 ∨ 90 < c.toNat) : c.toLower = c := by
  have hnot : ¬(c.val ≥ 'A'.val ∧ c.val ≤ 'Z'.val) := by
    rintro ⟨hlow, hhigh⟩
    have hlow : 65 ≤ c.toNat := hlow
    have hhigh : c.toNat ≤ 90 := hhigh
    omega
  exact dif_neg hnot

theorem isAscii_of_toLower (h : isAscii c.toLower) : isAscii c := by
  by_cases hupper : c.toNat < 65 ∨ 90 < c.toNat
  · rwa [toLower_of_not_upper hupper] at h
  · simp only [isAscii, decide_eq_true_eq]
    omega

/-- The code points of blanks. -/
def blankCodes : List Nat :=
  [0x09, 0x0A, 0x0B, 0x0C, 0x0D, 0x1C, 0x1D, 0x1E, 0x1F, 0x20, 0x85, 0xA0, 0x1680, 0x2000, 0x2001, 0x2002,
    0x2003, 0x2004, 0x2005, 0x2006, 0x2007, 0x2008, 0x2009, 0x200A, 0x2028, 0x2029, 0x202F, 0x205F, 0x3000]

theorem mem_blankCodes (h : isBlank c) : c.toNat ∈ blankCodes := by
  simp only [isBlank, isSpace, Bool.or_eq_true, Bool.and_eq_true, decide_eq_true_eq, beq_iff_eq] at h
  simp only [blankCodes, List.mem_cons, List.not_mem_nil, or_false]
  omega

theorem not_isDecimalDigit_of_isBlank (h : isBlank c) : ¬isDecimalDigit c := by
  have hall : ∀ n ∈ blankCodes, ¬inTable digitRanges n := by decide +kernel
  exact hall _ (mem_blankCodes h)

theorem not_isBlank_of_isDigit (h : Decimal.isDigit c) : ¬isBlank c :=
  fun hblank => not_isDecimalDigit_of_isBlank hblank (isDecimalDigit_of_isDigit h)

/-! ## Where a run stops -/

variable {p : Char → Bool} {run rest : List Char}

/-- A text does not begin with a character of a class. -/
def Stops (p : Char → Bool) (rest : List Char) : Prop := ∀ c, rest.head? = some c → ¬p c

theorem stops_nil : Stops p [] := fun _ h => nomatch h

theorem stops_cons {tail : List Char} (h : ¬p c) : Stops p (c :: tail) := by
  rintro _ ⟨⟩
  exact h

theorem stops_of_takeWhile (h : rest.takeWhile p = []) : Stops p rest := by
  cases rest with
  | nil => exact stops_nil
  | cons c tail => exact stops_cons fun hc => by simp [hc] at h

theorem stops_dropWhile (p : Char → Bool) (s : List Char) : Stops p (s.dropWhile p) := by
  intro c hc
  have hhead := List.head?_dropWhile_not p s
  rw [hc] at hhead
  simpa using hhead

theorem Stops.append {tail : List Char} (h : Stops p rest) (htail : Stops p tail) : Stops p (rest ++ tail) := by
  cases rest with
  | nil => exact htail
  | cons c rest => exact stops_cons (h c rfl)

theorem takeWhile_of_stops (h : Stops p rest) : rest.takeWhile p = [] := by
  cases rest with
  | nil => rfl
  | cons c tail => exact List.takeWhile_cons_of_neg (h c rfl)

theorem dropWhile_of_stops (h : Stops p rest) : rest.dropWhile p = rest := by
  cases rest with
  | nil => rfl
  | cons c tail => exact List.dropWhile_cons_of_neg (h c rfl)

theorem takeWhile_append_of_stops (hrun : ∀ c ∈ run, p c) (hrest : Stops p rest) :
    (run ++ rest).takeWhile p = run := by
  rw [List.takeWhile_append_of_pos hrun, takeWhile_of_stops hrest, List.append_nil]

theorem dropWhile_append_of_stops (hrun : ∀ c ∈ run, p c) (hrest : Stops p rest) :
    (run ++ rest).dropWhile p = rest := by
  rw [List.dropWhile_append_of_pos hrun, dropWhile_of_stops hrest]

theorem stops_of_forall_not (h : ∀ c ∈ rest, ¬p c) : Stops p rest := fun c hc => h c (List.mem_of_mem_head? hc)

/-- What does not go on with characters of a class does not change the run at the beginning of a text. -/
theorem takeWhile_append_stops (s : List Char) (h : Stops p rest) : (s ++ rest).takeWhile p = s.takeWhile p := by
  induction s with
  | nil => exact takeWhile_of_stops h
  | cons c s ih => rw [List.cons_append, List.takeWhile_cons, List.takeWhile_cons, ih]

theorem dropWhile_append_stops (s : List Char) (h : Stops p rest) :
    (s ++ rest).dropWhile p = s.dropWhile p ++ rest := by
  induction s with
  | nil => exact dropWhile_of_stops h
  | cons c s ih =>
    rw [List.cons_append, List.dropWhile_cons, List.dropWhile_cons, ih]
    split <;> rfl

end LintBridge.Text
