-- SUMMARY: Semantic versions, and that the search for a version in one finds its three numbers.
import LintBridge.Proofs.Version.Run

/-!
# Semantic versions

A semantic version has three numbers, and it may have identifiers of a pre-release behind a hyphen and identifiers
of a build behind a plus sign. These identifiers may look like versions themselves, but the numbers come first.
-/

namespace LintBridge.Version

open Text

/-! ## The grammar -/

/-- ASCII digits, without a zero before others. -/
def isNumeral (s : List Char) : Bool :=
  s ≠ [] && s.all Decimal.isDigit && (s.head? ≠ some '0' || s = ['0'])

def isIdentifierChar (c : Char) : Bool :=
  Decimal.isDigit c || ('a' ≤ c && c ≤ 'z') || ('A' ≤ c && c ≤ 'Z') || c == '-'

/-- An identifier of a build. -/
def isIdentifier (s : List Char) : Bool := s ≠ [] && s.all isIdentifierChar

/-- An identifier of a pre-release. One of digits alone is a numeral. -/
def isPreIdentifier (s : List Char) : Bool := isIdentifier s && (!s.all Decimal.isDigit || isNumeral s)

/-- A semantic version. Without identifiers of a kind it does not have that part. -/
structure Semantic where
  /-- Whether a `v` stands before the version. -/
  marked : Bool
  major : { s : List Char // isNumeral s }
  minor : { s : List Char // isNumeral s }
  patch : { s : List Char // isNumeral s }
  pre : List { s : List Char // isPreIdentifier s }
  build : List { s : List Char // isIdentifier s }

namespace Semantic

/-- Identifiers with points between them, behind a mark. -/
def part (mark : Char) (identifiers : List (List Char)) : List Char :=
  if identifiers = [] then [] else mark :: joinPieces '.' identifiers

def numbers (v : Semantic) : List (List Char) := [v.major, v.minor, v.patch]

/-- The three numbers of a version. -/
def core (v : Semantic) : List Char := joinPieces '.' v.numbers

/-- What follows the three numbers. -/
def suffix (v : Semantic) : List Char := part '-' (v.pre.map (·.val)) ++ part '+' (v.build.map (·.val))

def text (v : Semantic) : List Char := (if v.marked then ['v'] else []) ++ (v.core ++ v.suffix)

variable {rule : CaseRule} (v : Semantic)

/-! ## The version found -/

theorem of_isNumeral {s : List Char} (h : isNumeral s) : s ≠ [] ∧ ∀ c ∈ s, Decimal.isDigit c := by
  simp only [isNumeral, Bool.and_eq_true, decide_eq_true_eq, List.all_eq_true] at h
  exact h.1

theorem areNumbers_numbers : AreNumbers Decimal.isDigit v.numbers := by
  intro number hnumber
  simp only [numbers, List.mem_cons, List.not_mem_nil, or_false] at hnumber
  rcases hnumber with rfl | rfl | rfl
  · exact of_isNumeral v.major.2
  · exact of_isNumeral v.minor.2
  · exact of_isNumeral v.patch.2

theorem isRun_numbers : IsRun isDecimalDigit v.numbers where
  areNumbers := v.areNumbers_numbers.mono fun _ _ _ _ => isDecimalDigit_of_isDigit
  two := by simp [numbers]

/-- The three numbers are not followed by a fourth. -/
theorem endsRun_suffix : EndsRun v.suffix := by
  unfold suffix part
  split
  next =>
    split
    next => exact .nil
    next => exact .cons (by decide +kernel) (by decide)
  next => exact .cons (by decide +kernel) (by decide)

/-- The version found in a semantic version is its three numbers. -/
theorem candidate_text : candidate v.text = v.core := by
  have hmark : ∀ c ∈ (if v.marked then ['v'] else []), ¬isDecimalDigit c := by
    have hv : ¬isDecimalDigit 'v' := by decide +kernel
    split
    next => simpa using hv
    next => simp
  have hrun : dottedRun? v.text = some v.core := by
    rw [text, dottedRun_append_left hmark]
    exact dottedRun_of_prefix (dottedPrefix_joinPieces v.isRun_numbers v.endsRun_suffix)
  rw [candidate, hrun, Option.getD_some]

/-- The three numbers are read as a release, unless one has too many digits. -/
theorem ofText_core :
    ofText rule v.core = (Decimal.checkLengths v.numbers).map fun _ => some (release v.major [v.minor, v.patch]) :=
  ofText_joinPieces v.areNumbers_numbers

theorem exists_not_isBlank : ∃ c ∈ v.text, ¬isBlank c := by
  obtain ⟨hne, hdigits⟩ := of_isNumeral v.major.2
  obtain ⟨c, hc⟩ := List.exists_mem_of_ne_nil _ hne
  refine ⟨c, ?_, not_isBlank_of_isDigit (hdigits c hc)⟩
  exact List.mem_append_right _ (List.mem_append_left _ (mem_joinPieces '.' List.mem_cons_self hc))

end Semantic

end LintBridge.Version
