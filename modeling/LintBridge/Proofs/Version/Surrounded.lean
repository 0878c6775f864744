-- SUMMARY: Blanks around a version do not change what it is read as.
import LintBridge.Proofs.Version.Ascii

/-!
# Blanks around versions

No reader of a part of a version takes a blank or looks past one. So what a text is read as depends on its trimmed
form alone.
-/

namespace LintBridge.Version

open Text

variable {rule : CaseRule} {α : Type} {s tail : List Char}

/-! ## Blanks -/

theorem foldCase_of_isBlank {c : Char} (h : isBlank c) : foldCase rule c = c := by
  rcases foldCase_cases rule c with hc | hc
  · have hcodes := mem_blankCodes h
    rw [hc]
    refine toLower_of_not_upper ?_
    simp only [blankCodes, List.mem_cons, List.not_mem_nil, or_false] at hcodes
    omega
  · simp only [otherCases, List.map_cons, List.map_nil, List.mem_cons, List.not_mem_nil, or_false] at hc
    rcases hc with rfl | rfl | rfl | rfl <;> cases h

theorem not_isBuildChar_of_isBlank {c : Char} (h : isBlank c) : ¬isBuildChar rule c := by
  have hcodes := mem_blankCodes h
  simp only [isBuildChar, foldCase_of_isBlank h, Bool.or_eq_true, Bool.and_eq_true, decide_eq_true_eq, not_or,
    not_and]
  refine ⟨fun hdigit => not_isBlank_of_isDigit hdigit h, fun hlow hhigh => ?_⟩
  have hlow : 97 ≤ c.toNat := hlow
  have hhigh : c.toNat ≤ 122 := hhigh
  simp only [blankCodes, List.mem_cons, List.not_mem_nil, or_false] at hcodes
  omega

theorem not_isDigit_of_isBlank {c : Char} (h : isBlank c) : ¬Decimal.isDigit c :=
  fun hdigit => not_isBlank_of_isDigit hdigit h

theorem not_isSeparator_of_isBlank {c : Char} (h : isBlank c) : ¬isSeparator c := by
  simp only [isSeparator, Bool.or_eq_true, beq_iff_eq]
  rintro ((rfl | rfl) | rfl) <;> cases h

/-- All words are written without blanks. -/
def blankless (words : List (String × α)) : Bool := words.all (·.1.toList.all (!isBlank ·))

theorem TakesAscii.length_le {rest : List Char} (h : TakesAscii s rest) : rest.length ≤ s.length := by
  obtain ⟨taken, rfl, -⟩ := h
  rw [List.length_append]
  exact Nat.le_add_left _ _

/-! ## Readers before blanks -/

/-- What has been read, with more text behind what is left. -/
def before (tail : List Char) : α × List Char → α × List Char := Prod.map id (· ++ tail)

@[simp] theorem before_fst (tail : List Char) (read : α × List Char) : (before tail read).1 = read.1 := rfl

@[simp] theorem before_snd (tail : List Char) (read : α × List Char) : (before tail read).2 = read.2 ++ tail := rfl

/-- A part that may be missing is read alike if it is read alike where it is there. -/
theorem optionalPart_before {read? : List Char → Option (α × List Char)}
    (h : ∀ s, read? (s ++ tail) = (read? s).map (before tail)) (s : List Char) :
    optionalPart read? (s ++ tail) = before tail (optionalPart read? s) := by
  rw [optionalPart, optionalPart, h]
  cases read? s <;> rfl

section

variable (htail : ∀ c ∈ tail, isBlank c)
include htail

/-- What a text before blanks begins with, it begins with by itself. -/
theorem exists_of_append_blanks {mark : Char} (hmark : ¬isBlank mark) {s rest : List Char}
    (h : s ++ tail = mark :: rest) : ∃ rest', s = mark :: rest' := by
  cases s with
  | nil =>
    have hmem : mark ∈ tail := by
      rw [← List.nil_append tail, h]
      exact List.mem_cons_self
    exact absurd (htail mark hmem) hmark
  | cons c s =>
    rw [List.cons_append, List.cons.injEq] at h
    exact ⟨s, by rw [h.1]⟩

theorem decimal_read_blanks (s : List Char) : Decimal.read? (s ++ tail) = (Decimal.read? s).map (before tail) := by
  have hdigits : Stops Decimal.isDigit tail :=
    stops_of_forall_not fun c hc => not_isDigit_of_isBlank (htail c hc)
  rw [Decimal.read?, Decimal.read?, takeWhile_append_stops s hdigits, dropWhile_append_stops s hdigits]
  split <;> rfl

theorem dropWord_blanks {word : List Char} (hword : word.all (!isBlank ·)) (s : List Char) :
    dropWord? rule word (s ++ tail) = (dropWord? rule word s).map (· ++ tail) := by
  fun_induction dropWord? rule word s with
  | case1 => rfl
  | case2 w word =>
    rw [List.all_cons, Bool.and_eq_true, Bool.not_eq_true'] at hword
    cases tail with
    | nil => rfl
    | cons c tail =>
      have hc := htail c List.mem_cons_self
      have hne : c ≠ w := fun heq => by rw [← heq, hc] at hword; cases hword.1
      rw [List.nil_append, dropWord?, foldCase_of_isBlank hc, if_neg hne]
      rfl
  | case3 word c s ih =>
    rw [List.all_cons, Bool.and_eq_true] at hword
    rw [List.cons_append, dropWord?, if_pos rfl, ih hword.2]
  | case4 w word c s hne => rw [List.cons_append, dropWord?, if_neg hne, Option.map_none]

theorem dropAnyWord_blanks {words : List (String × α)} (hwords : blankless words) (s : List Char) :
    dropAnyWord? rule words (s ++ tail) = (dropAnyWord? rule words s).map (before tail) := by
  induction words with
  | nil => rfl
  | cons word words ih =>
    rw [blankless, List.all_cons, Bool.and_eq_true] at hwords
    rw [dropAnyWord?, dropAnyWord?, dropWord_blanks htail hwords.1]
    cases dropWord? rule word.1.toList s with
    | none => exact ih hwords.2
    | some rest => rfl

theorem dropSeparator_blanks (s : List Char) : dropSeparator (s ++ tail) = dropSeparator s ++ tail := by
  cases s with
  | nil =>
    cases tail with
    | nil => rfl
    | cons c tail =>
      rw [List.nil_append, dropSeparator, if_neg (not_isSeparator_of_isBlank (htail c List.mem_cons_self))]
      rfl
  | cons c s =>
    rw [List.cons_append, dropSeparator, dropSeparator]
    split <;> rfl

theorem readCount_blanks (s : List Char) : readCount (s ++ tail) = before tail (readCount s) := by
  rw [readCount, readCount, decimal_read_blanks htail]
  cases Decimal.read? s <;> rfl

theorem readPart_blanks (rule : CaseRule) {words : List (String × α)} (hwords : blankless words) (s : List Char) :
    readPart? rule words (s ++ tail) = (readPart? rule words s).map (before tail) := by
  rw [readPart?, readPart?, dropSeparator_blanks htail, dropAnyWord_blanks htail hwords]
  cases dropAnyWord? rule words (dropSeparator s) with
  | none => rfl
  | some found =>
    simp only [Option.map_some, before, Prod.map, id]
    rw [dropSeparator_blanks htail, readCount_blanks htail]
    rfl

theorem countedPart_blanks (rule : CaseRule) {words : List (String × α)} (hwords : blankless words) (s : List Char) :
    (readPart? rule words (s ++ tail)).map (fun (part, rest) => (part.2, rest)) =
      ((readPart? rule words s).map fun (part, rest) => (part.2, rest)).map (before tail) := by
  rw [readPart_blanks htail rule hwords]
  cases readPart? rule words s <;> rfl

theorem readPost_blanks (rule : CaseRule) (s : List Char) :
    readPost? rule (s ++ tail) = (readPost? rule s).map (before tail) := by
  have hwords : blankless postWords := by decide +kernel
  have hword := countedPart_blanks htail rule hwords s
  by_cases hnumber : ∃ rest, s = '-' :: rest
  · obtain ⟨rest, rfl⟩ := hnumber
    rw [List.cons_append, readPost?, ← List.cons_append, hword, readPost?, decimal_read_blanks htail]
    cases Decimal.read? rest <;> rfl
  · rw [readPost?, readPost?, hword]
    · exact fun rest hrest => hnumber ⟨rest, hrest⟩
    · exact fun rest hrest => hnumber (exists_of_append_blanks htail (by decide) hrest)

theorem readDev_blanks (rule : CaseRule) (s : List Char) :
    readDev? rule (s ++ tail) = (readDev? rule s).map (before tail) :=
  countedPart_blanks htail rule (by decide +kernel) s

theorem readEpoch_blanks (s : List Char) : readEpoch? (s ++ tail) = (readEpoch? s).map (before tail) := by
  rw [readEpoch?, readEpoch?, decimal_read_blanks htail]
  cases Decimal.read? s with
  | none => rfl
  | some number =>
    obtain ⟨n, rest⟩ := number
    simp only [Option.map_some, before, Prod.map, id]
    by_cases hmark : ∃ after, rest = '!' :: after
    · obtain ⟨after, rfl⟩ := hmark
      rfl
    · split
      next n' after heq =>
        simp only [Option.some.injEq, Prod.mk.injEq] at heq
        exact absurd (exists_of_append_blanks htail (by decide) heq.2) hmark
      next =>
        split
        next n' after heq =>
          simp only [Option.some.injEq, Prod.mk.injEq] at heq
          exact absurd ⟨after, heq.2⟩ hmark
        next => rfl

/-- The numbers of a release are read alike before blanks, with fuel enough for both texts. -/
theorem readMinor_blanks {fuel fuel' : Nat} (hfuel : s.length ≤ fuel) (hfuel' : s.length ≤ fuel') :
    readMinor fuel' (s ++ tail) = before tail (readMinor fuel s) := by
  fun_induction readMinor fuel s generalizing fuel' with
  | case1 fuel rest n after hnumber numbers rest' hmore ih =>
    obtain ⟨fuel', rfl⟩ : ∃ k, fuel' = k + 1 := ⟨fuel' - 1, by simp at hfuel'; omega⟩
    have hafter := (takesAscii_decimal hnumber).length_le
    simp only [List.length_cons] at hfuel hfuel'
    have hmore' : readMinor fuel' (after ++ tail) = (numbers, rest' ++ tail) := by
      rw [ih (by omega) (by omega), hmore]
      rfl
    simp only [List.cons_append, readMinor, decimal_read_blanks htail, hnumber, Option.map_some, before, Prod.map,
      id, hmore']
  | case2 fuel rest hnumber =>
    obtain ⟨fuel', rfl⟩ : ∃ k, fuel' = k + 1 := ⟨fuel' - 1, by simp at hfuel'; omega⟩
    simp only [List.cons_append, readMinor, decimal_read_blanks htail, hnumber, Option.map_none, before, Prod.map,
      id]
  | case3 fuel s hend =>
    have hpoint (rest : List Char) : s ≠ '.' :: rest := by
      rintro rfl
      cases fuel with
      | zero => simp at hfuel
      | succ fuel => exact hend fuel rest rfl rfl
    cases fuel' with
    | zero => rfl
    | succ fuel' =>
      rw [readMinor]
      · rfl
      · rintro _ rest ⟨⟩ hrest
        obtain ⟨rest', rfl⟩ := exists_of_append_blanks htail (by decide) hrest
        exact hpoint rest' rfl

/-- The segments of a local part are read alike before blanks, with fuel enough for both texts. -/
theorem readSegments_blanks {fuel fuel' : Nat} (hfuel : s.length < fuel) (hfuel' : s.length < fuel') :
    readSegments? rule fuel' (s ++ tail) = (readSegments? rule fuel s).map (before tail) := by
  have hbuild : Stops (isBuildChar rule) tail :=
    stops_of_forall_not fun c hc => not_isBuildChar_of_isBlank (htail c hc)
  induction fuel generalizing s fuel' with
  | zero => cases hfuel
  | succ fuel ih =>
    obtain ⟨fuel', rfl⟩ : ∃ k, fuel' = k + 1 := ⟨fuel' - 1, by omega⟩
    simp only [readSegments?, takeWhile_append_stops s hbuild, dropWhile_append_stops s hbuild]
    split
    next => rfl
    next hsegment =>
      have hlength : (s.dropWhile (isBuildChar rule)).length ≤ s.length := List.length_dropWhile_le _ _
      cases hrest : s.dropWhile (isBuildChar rule) with
      | nil =>
        cases tail with
        | nil => rfl
        | cons c tail =>
          have hc : ¬isSeparator c := not_isSeparator_of_isBlank (htail c List.mem_cons_self)
          simp only [List.nil_append, if_neg hc]
          rfl
      | cons c after =>
        rw [hrest, List.length_cons] at hlength
        by_cases hseparator : isSeparator c
        · have hmore : readSegments? rule fuel' (after ++ tail) = (readSegments? rule fuel after).map (before tail) :=
            ih (by omega) (by omega)
          simp only [List.cons_append, if_pos hseparator, hmore]
          cases readSegments? rule fuel after <;> rfl
        · simp only [List.cons_append, if_neg hseparator]
          rfl

theorem readBuild_blanks (rule : CaseRule) (s : List Char) :
    readBuild? rule (s ++ tail) = (readBuild? rule s).map (before tail) := by
  by_cases hmark : ∃ rest, s = '+' :: rest
  · obtain ⟨rest, rfl⟩ := hmark
    exact readSegments_blanks htail (Nat.lt_succ_self _)
      (Nat.lt_succ_of_le (List.sublist_append_left rest tail).length_le)
  · rw [readBuild?, readBuild?]
    · rfl
    · exact fun rest hrest => hmark ⟨rest, hrest⟩
    · exact fun rest hrest => hmark (exists_of_append_blanks htail (by decide) hrest)

/-- A version is read alike before blanks. -/
theorem read_blanks (s : List Char) : read? rule (s ++ tail) = (read? rule s).map (before tail) := by
  have hword : (dropWord? rule ['v'] (s ++ tail)).getD (s ++ tail) = (dropWord? rule ['v'] s).getD s ++ tail := by
    rw [dropWord_blanks htail (by decide)]
    cases dropWord? rule ['v'] s <;> rfl
  have hepoch (s : List Char) : (readEpoch? (s ++ tail)).getD (0, s ++ tail) =
      before tail ((readEpoch? s).getD (0, s)) := by
    rw [readEpoch_blanks htail]
    cases readEpoch? s <;> rfl
  have hminor (s : List Char) : readMinor (s ++ tail).length (s ++ tail) = before tail (readMinor s.length s) :=
    readMinor_blanks htail (Nat.le_refl _) (by simp)
  have hwords : blankless preWords := by decide +kernel
  have hpre := optionalPart_before (readPart_blanks htail rule hwords)
  have hpost := optionalPart_before (readPost_blanks htail rule)
  have hdev := optionalPart_before (readDev_blanks htail rule)
  have hbuild := optionalPart_before (readBuild_blanks htail rule)
  simp only [read?, hword, hepoch]
  generalize (dropWord? rule ['v'] s).getD s = unmarked
  generalize (readEpoch? unmarked).getD (0, unmarked) = epoch
  simp only [before_fst, before_snd, decimal_read_blanks htail, Option.bind_eq_bind]
  cases Decimal.read? epoch.2 with
  | none => rfl
  | some major =>
    simp only [Option.map_some, Option.bind_some, before_fst, before_snd, hminor, hpre, hpost, hdev, hbuild]
    rfl

end

/-- What a text is read as does not depend on the blanks around it. -/
theorem ofText?_trim (s : List Char) : ofText? rule (trim isBlank s) = ofText? rule s := by
  obtain ⟨tail, hs, htail⟩ := exists_dropWhile_eq_trim isBlank s
  rw [ofText?, ofText?, dropWhile_trim, hs, read_blanks htail]
  cases read? rule (trim isBlank s) with
  | none => rfl
  | some read =>
    have hblank : tail.all isBlank := List.all_eq_true.2 htail
    simp only [Option.map_some, before, Prod.map, id, List.all_append, hblank, Bool.and_true]

end LintBridge.Version
