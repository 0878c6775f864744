-- SUMMARY: What trimming takes away from a text.
import LintBridge.Text.Blank
import Mathlib.Data.List.TakeWhile

/-!
# Trimmed texts

Trimming takes away what stands at the two ends of a text, and nothing but blanks.
-/

namespace LintBridge.Text

variable {blank : Char → Bool} {s : List Char}

theorem not_blank_of_dropWhile {c : Char} {rest : List Char} (h : s.dropWhile blank = c :: rest) :
    ¬blank c := by
  have hhead := List.head?_dropWhile_not blank s
  rw [h] at hhead
  simpa using hhead

/-- Nothing is left exactly of blanks. -/
theorem trim_eq_nil_iff : trim blank s = [] ↔ ∀ c ∈ s, blank c := by
  rw [trim, List.reverse_eq_nil_iff, List.dropWhile_eq_nil_iff]
  simp only [List.mem_reverse]
  constructor
  · intro h
    rw [← List.dropWhile_eq_nil_iff]
    cases hrest : s.dropWhile blank with
    | nil => rfl
    | cons c rest => exact absurd (h c (by simp [hrest])) (not_blank_of_dropWhile hrest)
  · exact fun h c hc => h c ((List.dropWhile_sublist blank).subset hc)

/-- Behind the blanks in front stands the trimmed text, and blanks. -/
theorem exists_dropWhile_eq_trim (blank : Char → Bool) (s : List Char) :
    ∃ after, s.dropWhile blank = trim blank s ++ after ∧ ∀ c ∈ after, blank c := by
  refine ⟨((s.dropWhile blank).reverse.takeWhile blank).reverse, ?_,
    fun c hc => List.mem_takeWhile_imp (List.mem_reverse.1 hc)⟩
  rw [trim, ← List.reverse_append, List.takeWhile_append_dropWhile, List.reverse_reverse]

/-- Trimming takes blanks away at both ends. -/
theorem exists_eq_append_trim (blank : Char → Bool) (s : List Char) :
    ∃ before after, s = before ++ (trim blank s ++ after) ∧ (∀ c ∈ before, blank c) ∧ ∀ c ∈ after, blank c := by
  obtain ⟨after, hkept, hafter⟩ := exists_dropWhile_eq_trim blank s
  refine ⟨s.takeWhile blank, after, ?_, fun c hc => List.mem_takeWhile_imp hc, hafter⟩
  rw [← hkept, List.takeWhile_append_dropWhile]

theorem trim_append_left {before : List Char} (h : ∀ c ∈ before, blank c) :
    trim blank (before ++ s) = trim blank s := by
  rw [trim, trim, List.dropWhile_append_of_pos h]

theorem trim_append_right {after : List Char} (h : ∀ c ∈ after, blank c) :
    trim blank (s ++ after) = trim blank s := by
  rw [trim, trim, List.dropWhile_append]
  split
  next hempty =>
    rw [List.isEmpty_iff.1 hempty, List.dropWhile_eq_nil_iff.2 h]
  next =>
    rw [List.reverse_append, List.dropWhile_append_of_pos fun c hc => h c (List.mem_reverse.1 hc)]

theorem trim_trim : trim blank (trim blank s) = trim blank s := by
  obtain ⟨before, after, hs, hbefore, hafter⟩ := exists_eq_append_trim blank s
  have htrim : trim blank s = trim blank (before ++ (trim blank s ++ after)) := congrArg (trim blank) hs
  rwa [trim_append_left hbefore, trim_append_right hafter, eq_comm] at htrim

/-- A trimmed text does not begin with a blank. -/
theorem dropWhile_trim : (trim blank s).dropWhile blank = trim blank s := by
  obtain ⟨after, hafter, -⟩ := exists_dropWhile_eq_trim blank (trim blank s)
  rw [trim_trim] at hafter
  have hlength := List.length_dropWhile_le blank (trim blank s)
  rw [hafter, List.length_append] at hlength
  have hnil : after = [] := List.eq_nil_of_length_eq_zero (by omega)
  rw [hafter, hnil, List.append_nil]

end LintBridge.Text
