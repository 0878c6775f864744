-- SUMMARY: What reading, finding and classifying a declared version come to.
import LintBridge.Version.Generation

/-!
# Declared versions

A text that is a version is refused exactly if one of its numbers has too many digits. A declaration is
normalized to the candidate in it, if that is a version, and classified by the major release.
-/

namespace LintBridge

namespace Version

variable {rule : CaseRule} {s : List Char}

/-- The first of some numbers that has too many digits has so many. -/
inductive TooLong : List (List Char) → Nat → Prop
  | head {number : List Char} {rest : List (List Char)} : Decimal.maxDigits < number.length →
      TooLong (number :: rest) number.length
  | tail {number : List Char} {rest : List (List Char)} {count : Nat} :
      number.length ≤ Decimal.maxDigits → TooLong rest count → TooLong (number :: rest) count

theorem checkLengths_cons (number : List Char) (rest : List (List Char)) :
    Decimal.checkLengths (number :: rest) =
      if Decimal.maxDigits < number.length then .error ⟨number.length⟩ else Decimal.checkLengths rest := by
  by_cases h : Decimal.maxDigits < number.length
  · simp [Decimal.checkLengths, h]
  · simp [Decimal.checkLengths, h]

theorem checkLengths_eq_error_iff {numbers : List (List Char)} {limit : Decimal.TooManyDigits} :
    Decimal.checkLengths numbers = .error limit ↔ TooLong numbers limit.count := by
  obtain ⟨count⟩ := limit
  induction numbers with
  | nil =>
    constructor
    · rintro ⟨⟩
    · rintro ⟨⟩
  | cons number rest ih =>
    rw [checkLengths_cons]
    split
    next hlong =>
      constructor
      · rintro ⟨⟩
        exact .head hlong
      · intro h
        cases h with
        | head => rfl
        | tail hshort => omega
    next hshort =>
      rw [ih]
      refine ⟨.tail (by omega), fun h => ?_⟩
      cases h with
      | head hlong => exact absurd hlong hshort
      | tail _ h => exact h

theorem checkLengths_eq_ok_iff {numbers : List (List Char)} :
    Decimal.checkLengths numbers = .ok () ↔ ∀ number ∈ numbers, number.length ≤ Decimal.maxDigits := by
  induction numbers with
  | nil => simp [Decimal.checkLengths]
  | cons number rest ih =>
    rw [checkLengths_cons, List.forall_mem_cons, ← ih]
    split
    next hlong => simp [Nat.not_le.2 hlong]
    next hshort => simp [Nat.not_lt.1 hshort]

theorem ofText_eq_none_iff : ofText rule s = .ok none ↔ ofText? rule s = none := by
  rw [ofText]
  cases ofText? rule s with
  | none => simp
  | some version => cases Decimal.checkLengths (numbers rule s) <;> simp [Except.map]

theorem normalize_eq {declared : String} (h : declared ≠ "") :
    normalize rule declared =
      (ofText rule (candidate declared.toList)).map
        (Option.map fun _ => String.ofList (candidate declared.toList)) := by
  have hempty : ¬declared.isEmpty := by simpa using h
  unfold normalize
  rw [if_neg hempty]
  dsimp only
  cases ofText rule (candidate declared.toList) with
  | error limit => rfl
  | ok version => rfl

/-- Nothing is extracted exactly if the candidate is no version. -/
theorem normalize_eq_none_iff {declared : String} (h : declared ≠ "") :
    normalize rule declared = .ok none ↔ ofText? rule (candidate declared.toList) = none := by
  rw [normalize_eq h, ← ofText_eq_none_iff]
  cases ofText rule (candidate declared.toList) with
  | error limit => simp [Except.map]
  | ok version => simp [Except.map]

end Version

/-- The generation of what a version text is read as. -/
def Generation.ofReading : Option Version → Generation
  | some v => if v.major ≤ lastLegacyMajor then .legacy else .modern
  | none => .modern

theorem Generation.ofReading_eq_legacy_iff (v : Version) :
    Generation.ofReading (some v) = .legacy ↔ v.major ≤ lastLegacyMajor := by
  simp [Generation.ofReading]

theorem Generation.ofVersion_eq {version : String} (h : version ≠ "") :
    Generation.ofVersion rule (some version) = (Version.ofText rule version.toList).map ofReading := by
  have hkept : (Option.filter (!·.isEmpty) (some version)).getD fallbackVersion = version := by
    rw [Option.filter_some, if_pos (by simpa using h)]
    rfl
  rw [Generation.ofVersion, hkept]
  cases Version.ofText rule version.toList with
  | error limit => rfl
  | ok v => cases v <;> rfl

end LintBridge
