-- SUMMARY: What normalizing finds is a version of the text, and normalizing it again finds the same.
import LintBridge.Proofs.Version.Run

/-!
# Normalized versions

The search for a version takes the dotted run that begins first in a text, as long as it goes there, or the trimmed
text if there is none. What is found is found again in itself: a dotted run is its own first run, and a trimmed text
has no run that the text has not. So normalizing leaves alone what it gives.
-/

namespace LintBridge.Version

open Text

variable {rule : CaseRule} {s run after : List Char} {numbers : List (List Char)}

/-! ## The longest run at the beginning of a text -/

/-- Decimal digits of any script, and at least one point with more of them. -/
def IsDotted (run : List Char) : Prop := ∃ numbers, IsRun isDecimalDigit numbers ∧ run = joinPieces '.' numbers

theorem IsDotted.ne_nil (h : IsDotted run) : run ≠ [] := by
  obtain ⟨numbers, hrun, rfl⟩ := h
  match numbers, hrun.two with
  | first :: second :: numbers, _ => simp [joinPieces]

theorem IsDotted.isRunChar {c : Char} (h : IsDotted run) (hc : c ∈ run) : isRunChar c := by
  obtain ⟨numbers, hrun, rfl⟩ := h
  rcases eq_or_mem_of_mem_joinPieces hc with rfl | ⟨number, hnumber, hc⟩
  · rfl
  · rw [Version.isRunChar, (hrun.areNumbers number hnumber).2 c hc, Bool.true_or]

theorem isDotted_of_dottedPrefix (h : dottedPrefix? s = some run) : IsDotted run := by
  obtain ⟨numbers, -, hrun, -, rfl, -⟩ := dottedPrefix_eq_some_iff.1 h
  exact ⟨numbers, hrun, rfl⟩

/-- Points with numbers are the beginning of the tail that is found where they stand. -/
theorem flatMap_prefix_dottedTail (hnumbers : AreNumbers isDecimalDigit numbers) {fuel : Nat}
    (hfuel : numbers.length ≤ fuel) (after : List Char) :
    numbers.flatMap ('.' :: ·) <+: dottedTail fuel (numbers.flatMap ('.' :: ·) ++ after) := by
  induction numbers generalizing fuel with
  | nil => exact List.nil_prefix
  | cons number numbers ih =>
    obtain ⟨fuel, rfl⟩ : ∃ k, fuel = k + 1 := ⟨fuel - 1, by simp at hfuel; omega⟩
    obtain ⟨⟨hne, hdigits⟩, hnumbers⟩ := List.forall_mem_cons.1 hnumbers
    rw [List.flatMap_cons, List.cons_append, List.cons_append, List.append_assoc, dottedTail]
    have hempty : ((number ++ (numbers.flatMap ('.' :: ·) ++ after)).takeWhile isDecimalDigit).isEmpty = false := by
      rw [List.takeWhile_append_of_pos hdigits]
      simp [hne]
    simp only [hempty, Bool.false_eq_true, if_false]
    cases numbers with
    | nil =>
      -- the last number may go on behind what is known of the text
      rw [List.takeWhile_append_of_pos hdigits, List.append_assoc, List.flatMap_nil, List.append_nil]
      exact List.prefix_cons_inj '.' |>.2 (List.prefix_append number _)
    | cons next numbers =>
      have hstops : Stops isDecimalDigit ((next :: numbers).flatMap ('.' :: ·) ++ after) :=
        stops_cons not_isDecimalDigit_point
      rw [takeWhile_append_of_stops hdigits hstops, dropWhile_append_of_stops hdigits hstops]
      exact List.prefix_cons_inj '.' |>.2
        ((List.prefix_append_right_inj number).2 (ih hnumbers (Nat.le_of_succ_le_succ hfuel)))

/-- Where a dotted run stands, one is found that begins with it. -/
theorem exists_dottedPrefix (h : IsDotted run) (after : List Char) :
    ∃ longest, dottedPrefix? (run ++ after) = some longest ∧ run <+: longest := by
  obtain ⟨numbers, hrun, rfl⟩ := h
  match numbers, hrun.two with
  | first :: second :: numbers, _ =>
    obtain ⟨⟨hne, hdigits⟩, hnumbers⟩ := List.forall_mem_cons.1 hrun.areNumbers
    have hstops : Stops isDecimalDigit ((second :: numbers).flatMap ('.' :: ·) ++ after) :=
      stops_cons not_isDecimalDigit_point
    have htail := flatMap_prefix_dottedTail hnumbers (length_le_around (second :: numbers) first after) after
    have hfound := dottedPrefix_append_tail hne hdigits hstops fun hnil => by
      rw [hnil, List.prefix_nil] at htail
      cases htail
    rw [joinPieces_eq_flatMap, List.append_assoc]
    exact ⟨_, hfound, (List.prefix_append_right_inj first).2 htail⟩

theorem dottedPrefix_ne_none (h : IsDotted run) (hs : run <+: s) : dottedPrefix? s ≠ none := by
  obtain ⟨after, rfl⟩ := hs
  obtain ⟨longest, hfound, -⟩ := exists_dottedPrefix h after
  rw [hfound]
  exact Option.some_ne_none _

/-! ## The first run in a text -/

/-- A dotted run of a text before which no other begins, and that is the longest of those that begin with it. -/
structure IsFirstRun (s run : List Char) : Prop where
  dotted : IsDotted run
  first : ∃ before after, s = before ++ (run ++ after) ∧
    ∀ before' run' after', s = before' ++ (run' ++ after') → IsDotted run' →
      before.length ≤ before'.length ∧ (before'.length = before.length → run'.length ≤ run.length)

theorem IsFirstRun.part (h : IsFirstRun s run) : run <:+: s := by
  obtain ⟨before, after, rfl, -⟩ := h.first
  exact ⟨before, after, List.append_assoc ..⟩

theorem isFirstRun_of_dottedPrefix (h : dottedPrefix? s = some run) : IsFirstRun s run where
  dotted := isDotted_of_dottedPrefix h
  first := by
    obtain ⟨numbers, after, -, -, -, hs⟩ := dottedPrefix_eq_some_iff.1 h
    refine ⟨[], after, hs, fun before' run' after' hs' hrun' => ⟨Nat.zero_le _, fun hlength => ?_⟩⟩
    obtain rfl := List.eq_nil_of_length_eq_zero hlength
    obtain ⟨longest, hfound, hlongest⟩ := exists_dottedPrefix hrun' after'
    rw [← List.nil_append (run' ++ after'), ← hs', h, Option.some.injEq] at hfound
    rw [hfound]
    exact hlongest.length_le

/-- A character at which no run begins leaves the first run. -/
theorem IsFirstRun.cons {c : Char} (h : IsFirstRun s run) (hc : dottedPrefix? (c :: s) = none) :
    IsFirstRun (c :: s) run where
  dotted := h.dotted
  first := by
    obtain ⟨before, after, hs, hfirst⟩ := h.first
    refine ⟨c :: before, after, congrArg (c :: ·) hs, fun before' run' after' hs' hrun' => ?_⟩
    cases before' with
    | nil => exact absurd hc (dottedPrefix_ne_none hrun' ⟨after', hs'.symm⟩)
    | cons d before' =>
      obtain ⟨hbefore, hlength⟩ := hfirst before' run' after' (List.cons.inj hs').2 hrun'
      exact ⟨Nat.succ_le_succ hbefore, fun heq => hlength (Nat.succ.inj heq)⟩

/-- The run that is found is the first one. -/
theorem isFirstRun_of_dottedRun (h : dottedRun? s = some run) : IsFirstRun s run := by
  induction s with
  | nil => cases h
  | cons c s ih =>
    rw [dottedRun?] at h
    split at h
    next run' hbegins =>
      cases h
      exact isFirstRun_of_dottedPrefix hbegins
    next hnone => exact (ih h).cons hnone

/-- Where no run is found there is none. -/
theorem not_part_of_dottedRun (h : dottedRun? s = none) (hrun : IsDotted run) : ¬run <:+: s := by
  induction s with
  | nil =>
    rw [List.infix_nil]
    exact hrun.ne_nil
  | cons c s ih =>
    rw [dottedRun?] at h
    split at h
    next => cases h
    next hnone =>
      rw [List.infix_cons_iff, not_or]
      exact ⟨fun hbegins => dottedPrefix_ne_none hrun hbegins hnone, ih h⟩

/-! ## The candidate in a text -/

/-- The candidate is the first dotted run, or the trimmed text if there is no run. -/
theorem candidate_cases (s : List Char) :
    IsFirstRun s (candidate s) ∨ (∀ run, IsDotted run → ¬run <:+: s) ∧ candidate s = trim isBlank s := by
  unfold candidate
  cases h : dottedRun? s with
  | none => exact .inr ⟨fun _ => not_part_of_dottedRun h, rfl⟩
  | some run => exact .inl (isFirstRun_of_dottedRun h)

theorem trim_part (s : List Char) : trim isBlank s <:+: s := by
  obtain ⟨before, after, hs, -, -⟩ := exists_eq_append_trim isBlank s
  exact ⟨before, after, by rw [List.append_assoc, ← hs]⟩

theorem stops_trim (blank : Char → Bool) (s : List Char) :
    Stops blank (trim blank s) ∧ Stops blank (trim blank s).reverse := by
  constructor
  · rw [← dropWhile_trim]
    exact stops_dropWhile blank _
  · rw [trim, List.reverse_reverse]
    exact stops_dropWhile blank _

theorem candidate_part (s : List Char) : candidate s <:+: s := by
  rcases candidate_cases s with hfirst | ⟨-, htrim⟩
  · exact hfirst.part
  · rw [htrim]
    exact trim_part s

theorem IsDotted.candidate_eq (h : IsDotted run) : candidate run = run := by
  obtain ⟨numbers, hrun, rfl⟩ := h
  have hprefix := dottedPrefix_joinPieces hrun EndsRun.nil
  rw [List.append_nil] at hprefix
  rw [candidate, dottedRun_of_prefix hprefix, Option.getD_some]

/-- The candidate in a candidate is that itself. -/
theorem candidate_candidate (s : List Char) : candidate (candidate s) = candidate s := by
  rcases candidate_cases s with hfirst | ⟨-, htrim⟩
  · exact hfirst.dotted.candidate_eq
  · rw [htrim, candidate_trim, htrim]

theorem IsDotted.trim_eq (h : IsDotted run) : trim isBlank run = run := by
  have hblank : ∀ c ∈ run, ¬isBlank c := fun c hc hblank => not_isRunChar_of_isBlank hblank (h.isRunChar hc)
  rw [trim, dropWhile_of_stops (stops_of_forall_not hblank),
    dropWhile_of_stops (stops_of_forall_not fun c hc => hblank c (List.mem_reverse.1 hc)), List.reverse_reverse]

theorem trim_candidate (s : List Char) : trim isBlank (candidate s) = candidate s := by
  rcases candidate_cases s with hfirst | ⟨-, htrim⟩
  · exact hfirst.dotted.trim_eq
  · rw [htrim, trim_trim]

/-! ## What is found -/

variable {raw v : String}

/-- What normalizing gives is the candidate in the text, and a version. -/
theorem normalize_eq_some_iff :
    normalize rule raw = .ok (some v) ↔
      v.toList = candidate raw.toList ∧ ∃ version, ofText rule v.toList = .ok (some version) := by
  by_cases hraw : raw = ""
  · subst hraw
    constructor
    · rintro ⟨⟩
    · rintro ⟨hv, version, hversion⟩
      rw [hv] at hversion
      cases hversion
  · rw [normalize_eq hraw]
    constructor
    · intro h
      cases hfound : ofText rule (candidate raw.toList) with
      | error limit =>
        rw [hfound] at h
        cases h
      | ok found =>
        rw [hfound] at h
        cases found with
        | none => cases h
        | some version =>
          cases h
          rw [String.toList_ofList]
          exact ⟨rfl, version, hfound⟩
    · rintro ⟨hv, version, hversion⟩
      rw [← hv, hversion]
      simp [Except.map]

/-- A version that is found in a text is part of it, without blanks around it. It is found again in itself. It is the
first dotted run of the text, as long as that goes, or the trimmed text where no dotted run stands. All this holds
whichever characters a reader takes for letters. -/
theorem normalize_retracts (h : normalize rule raw = .ok (some v)) :
    (∃ version, ofText rule v.toList = .ok (some version)) ∧ v.toList <:+: raw.toList ∧
      (Stops isBlank v.toList ∧ Stops isBlank v.toList.reverse) ∧ normalize rule v = .ok (some v) ∧
      (IsFirstRun raw.toList v.toList ∨
        (∀ run, IsDotted run → ¬run <:+: raw.toList) ∧ v.toList = trim isBlank raw.toList) := by
  obtain ⟨hv, hversion⟩ := normalize_eq_some_iff.1 h
  refine ⟨hversion, ?_, ?_, normalize_eq_some_iff.2 ⟨?_, hversion⟩, ?_⟩
  · rw [hv]
    exact candidate_part raw.toList
  · rw [hv, ← trim_candidate]
    exact stops_trim isBlank _
  · rw [hv, candidate_candidate]
  · rw [hv]
    exact candidate_cases raw.toList

/-- A declaration with a dotted run, one without, whose blanks are taken away, and one with a letter beyond ASCII. -/
theorem normalize_retracts_declared :
    (normalize .ascii "tslint v5.20.1-beta.2" = .ok (some "5.20.1") ∧ normalize .ascii "5.20.1" = .ok (some "5.20.1") ∧
        IsFirstRun "tslint v5.20.1-beta.2".toList "5.20.1".toList) ∧
      (normalize .ascii "\t7rc1 " = .ok (some "7rc1") ∧ normalize .ascii "7rc1" = .ok (some "7rc1") ∧
        ∀ run, IsDotted run → ¬run <:+: "\t7rc1 ".toList) ∧
      normalize .unicode " 3po\u017ft" = .ok (some "3po\u017ft") ∧
        normalize .unicode "3po\u017ft" = .ok (some "3po\u017ft") := by
  have hdotted : normalize .ascii "tslint v5.20.1-beta.2" = .ok (some "5.20.1") := by decide +kernel
  have hplain : normalize .ascii "\t7rc1 " = .ok (some "7rc1") := by decide +kernel
  have hletter : normalize .unicode " 3po\u017ft" = .ok (some "3po\u017ft") := by decide +kernel
  obtain ⟨-, -, -, hagain, hfirst⟩ := normalize_retracts hdotted
  obtain ⟨-, -, -, hagain', hfirst'⟩ := normalize_retracts hplain
  obtain ⟨-, -, -, hagain'', -⟩ := normalize_retracts hletter
  refine ⟨⟨hdotted, hagain, hfirst.resolve_right ?_⟩, ⟨hplain, hagain', (hfirst'.resolve_left ?_).1⟩, hletter, hagain''⟩
  · rintro ⟨-, htrim⟩
    exact absurd htrim (by decide +kernel)
  · intro hfirst
    have hletter : isRunChar 'r' := hfirst.dotted.isRunChar (by decide)
    exact absurd hletter (by decide +kernel)

end LintBridge.Version
