-- SUMMARY: A name of several words stands for the same field in camel case and in snake case.
import LintBridge.Proofs.Text.Digit
import LintBridge.Settings.Key
import LintBridge.Text.Pieces

/-!
# Spellings of a name

A name is a list of words. Camel case writes each word but the first with a capital letter, snake case puts an
underscore between words. Both are read as the name in snake case.
-/

namespace LintBridge.Settings

open Text

/-! ## Words -/

/-- A word of a name: a letter, and then letters and digits, all of them in lower case. -/
inductive IsWord : List Char → Prop
  | mk {c : Char} {rest : List Char} : c.isLower → (∀ d ∈ rest, d.isLower ∨ d.isDigit) → IsWord (c :: rest)

instance : DecidablePred IsWord
  | [] => isFalse fun h => nomatch h
  | c :: rest =>
    decidable_of_iff (c.isLower ∧ rest.all fun d => d.isLower || d.isDigit) (by
      simp only [List.all_eq_true, Bool.or_eq_true]
      exact ⟨fun ⟨hfirst, hrest⟩ => .mk hfirst hrest, fun (.mk hfirst hrest) => ⟨hfirst, hrest⟩⟩)

/-- A word with a capital letter at its beginning. -/
def capitalised : List Char → List Char
  | [] => []
  | c :: rest => c.toUpper :: rest

/-- A name in snake case. -/
def snakeName (words : List (List Char)) : List Char := joinPieces '_' words

/-- A name in camel case. -/
def camelName : List (List Char) → List Char
  | [] => []
  | first :: others => first ++ others.flatMap capitalised

/-! ## Characters -/

/-- A character of a name in snake case. -/
def isSmall (c : Char) : Bool := c.isLower || c.isDigit || c == '_'

/-- A character whose lower-case form does not depend on its neighbours. -/
def standsAlone (c : Char) : Bool := c != '\u0130' && c != 'Σ'

variable {c : Char}

theorem isAscii_of_isLower (h : c.isLower) : isAscii c := by
  have hbounds : (decide (97 ≤ c.val) && decide (c.val ≤ 122)) = true := h
  have hhigh : c.val ≤ 122 := of_decide_eq_true (Bool.and_eq_true_iff.1 hbounds).2
  exact decide_eq_true (Nat.lt_of_le_of_lt (UInt32.le_iff_toNat_le.1 hhigh) (by decide))

theorem isAscii_of_isSmall (h : isSmall c) : isAscii c := by
  simp only [isSmall, Bool.or_eq_true, beq_iff_eq] at h
  rcases h with (h | h) | rfl
  · exact isAscii_of_isLower h
  · exact isAscii_of_isDigit h
  · decide

/-- What holds of small characters needs to be checked of the ASCII characters only. -/
theorem of_isSmall {P : Char → Prop} (hall : ∀ n < 128, isSmall (Char.ofNat n) → P (Char.ofNat n))
    (h : isSmall c) : P c := by
  have hc := hall c.toNat (by simpa [isAscii] using isAscii_of_isSmall h)
  rw [Char.ofNat_toNat] at hc
  exact hc h

theorem not_capital_of_isSmall (h : isSmall c) : ¬('A' ≤ c ∧ c ≤ 'Z') :=
  of_isSmall (P := fun c => ¬('A' ≤ c ∧ c ≤ 'Z')) (by decide +kernel) h

theorem lowerChar_of_isSmall (h : isSmall c) : lowerChar c = c :=
  of_isSmall (P := fun c => lowerChar c = c) (by decide +kernel) h

theorem standsAlone_of_isSmall (h : isSmall c) : standsAlone c :=
  of_isSmall (P := fun c => standsAlone c) (by decide +kernel) h

theorem isSmall_of_isLower (h : c.isLower) : isSmall c := by simp [isSmall, h]

theorem isSmall_of_isDigit (h : c.isDigit) : isSmall c := by simp [isSmall, h]

theorem toUpper_capital (h : c.isLower) : 'A' ≤ c.toUpper ∧ c.toUpper ≤ 'Z' :=
  of_isSmall (P := fun c => c.isLower → 'A' ≤ c.toUpper ∧ c.toUpper ≤ 'Z') (by decide +kernel)
    (isSmall_of_isLower h) h

theorem lowerChar_toUpper (h : c.isLower) : lowerChar c.toUpper = c :=
  of_isSmall (P := fun c => c.isLower → lowerChar c.toUpper = c) (by decide +kernel) (isSmall_of_isLower h) h

theorem standsAlone_toUpper (h : c.isLower) : standsAlone c.toUpper :=
  of_isSmall (P := fun c => standsAlone c.toUpper) (by decide +kernel) (isSmall_of_isLower h)

/-! ## Underscores -/

theorem breakWords_append (s t : List Char) : breakWords (s ++ t) = breakWords s ++ breakWords t := by
  fun_induction breakWords s with
  | case1 => rfl
  | case2 c rest hcapital ih => rw [List.cons_append, breakWords, if_pos hcapital, ih]; rfl
  | case3 c rest hcapital ih => rw [List.cons_append, breakWords, if_neg hcapital, ih]; rfl

/-- A text without capital letters stays as it is. -/
theorem breakWords_of_small {s : List Char} (h : ∀ c ∈ s, isSmall c) : breakWords s = s := by
  induction s with
  | nil => rfl
  | cons c rest ih =>
    rw [List.forall_mem_cons] at h
    rw [breakWords, if_neg (not_capital_of_isSmall h.1), ih h.2]

theorem IsWord.exists_eq_cons {word : List Char} (h : IsWord word) :
    ∃ c rest, word = c :: rest ∧ c.isLower ∧ ∀ d ∈ rest, isSmall d := by
  obtain ⟨hfirst, hrest⟩ := h
  exact ⟨_, _, rfl, hfirst, fun d hd => (hrest d hd).elim isSmall_of_isLower isSmall_of_isDigit⟩

theorem IsWord.small {word : List Char} (h : IsWord word) : ∀ c ∈ word, isSmall c := by
  obtain ⟨c, rest, rfl, hfirst, hrest⟩ := h.exists_eq_cons
  exact List.forall_mem_cons.2 ⟨isSmall_of_isLower hfirst, hrest⟩

/-- A word that begins with a capital letter has an underscore before it, and no other. -/
theorem breakWords_capitalised {word : List Char} (h : IsWord word) :
    breakWords (capitalised word) = '_' :: capitalised word := by
  obtain ⟨c, rest, rfl, hfirst, hrest⟩ := h.exists_eq_cons
  rw [capitalised, breakWords, if_pos (toUpper_capital hfirst), breakWords_of_small hrest]

theorem breakWords_flatMap_capitalised {words : List (List Char)} (h : ∀ word ∈ words, IsWord word) :
    breakWords (words.flatMap capitalised) = (words.map capitalised).flatMap ('_' :: ·) := by
  induction words with
  | nil => rfl
  | cons word words ih =>
    rw [List.forall_mem_cons] at h
    rw [List.flatMap_cons, breakWords_append, breakWords_capitalised h.1, ih h.2, List.map_cons,
      List.flatMap_cons]

/-! ## Lower case -/

theorem lowerFrom_eq_map {s : List Char} (h : ∀ c ∈ s, standsAlone c) (before : List Char) :
    lowerFrom before s = s.map lowerChar := by
  induction s generalizing before with
  | nil => rfl
  | cons c rest ih =>
    rw [List.forall_mem_cons] at h
    have hplain : c ≠ '\u0130' ∧ c ≠ 'Σ' := by simpa [standsAlone] using h.1
    rw [lowerFrom, if_neg hplain.1, if_neg hplain.2, ih h.2, List.map_cons, List.singleton_append]

theorem map_lowerChar_of_small {s : List Char} (h : ∀ c ∈ s, isSmall c) : s.map lowerChar = s := by
  rw [List.map_congr_left fun c hc => lowerChar_of_isSmall (h c hc), List.map_id']

/-- A word is its form with a capital letter, in lower case. -/
theorem map_lowerChar_capitalised {word : List Char} (h : IsWord word) :
    (capitalised word).map lowerChar = word := by
  obtain ⟨c, rest, rfl, hfirst, hrest⟩ := h.exists_eq_cons
  rw [capitalised, List.map_cons, lowerChar_toUpper hfirst, map_lowerChar_of_small hrest]

theorem standsAlone_capitalised {word : List Char} (h : IsWord word) : ∀ c ∈ capitalised word, standsAlone c := by
  obtain ⟨c, rest, rfl, hfirst, hrest⟩ := h.exists_eq_cons
  rw [capitalised, List.forall_mem_cons]
  exact ⟨standsAlone_toUpper hfirst, fun d hd => standsAlone_of_isSmall (hrest d hd)⟩

/-! ## Both spellings -/

theorem small_snakeName {words : List (List Char)} (h : ∀ word ∈ words, IsWord word) :
    ∀ c ∈ snakeName words, isSmall c := by
  intro c hc
  rcases eq_or_mem_of_mem_joinPieces hc with rfl | ⟨word, hword, hc⟩
  · decide
  · exact (h word hword).small c hc

/-- A name in snake case is read as it is. -/
theorem snakeCase_snakeName {words : List (List Char)} (h : ∀ word ∈ words, IsWord word) :
    snakeCase (snakeName words) = snakeName words := by
  have hsmall := small_snakeName h
  cases hname : snakeName words with
  | nil => rfl
  | cons c rest =>
    rw [hname] at hsmall
    rw [snakeCase, breakWords_of_small (List.forall_mem_cons.1 hsmall).2, lower,
      lowerFrom_eq_map fun c hc => standsAlone_of_isSmall (hsmall c hc), map_lowerChar_of_small hsmall]

/-- A name in camel case is read as the name in snake case. -/
theorem snakeCase_camelName {words : List (List Char)} (h : ∀ word ∈ words, IsWord word) :
    snakeCase (camelName words) = snakeName words := by
  cases words with
  | nil => rfl
  | cons first others =>
    rw [List.forall_mem_cons] at h
    obtain ⟨hfirst, hothers⟩ := h
    obtain ⟨c, rest, rfl, -, hrest⟩ := hfirst.exists_eq_cons
    have halone : ∀ d ∈ joinPieces '_' ((c :: rest) :: others.map capitalised), standsAlone d := by
      intro d hd
      rcases eq_or_mem_of_mem_joinPieces hd with rfl | ⟨word, hword, hd⟩
      · decide
      · rcases List.mem_cons.1 hword with rfl | hword
        · exact standsAlone_of_isSmall (hfirst.small d hd)
        · obtain ⟨other, hother, rfl⟩ := List.mem_map.1 hword
          exact standsAlone_capitalised (hothers other hother) d hd
    have hwords : (others.map capitalised).map (List.map lowerChar) = others := by
      rw [List.map_map]
      exact (List.map_congr_left fun word hword => map_lowerChar_capitalised (hothers word hword)).trans
        (List.map_id' others)
    calc snakeCase (camelName ((c :: rest) :: others))
      _ = lower (c :: breakWords (rest ++ others.flatMap capitalised)) := rfl
      _ = lower (joinPieces '_' ((c :: rest) :: others.map capitalised)) := by
        rw [breakWords_append, breakWords_of_small hrest, breakWords_flatMap_capitalised hothers,
          joinPieces_eq_flatMap, List.cons_append]
      _ = (joinPieces '_' ((c :: rest) :: others.map capitalised)).map lowerChar := lowerFrom_eq_map halone []
      _ = joinPieces (lowerChar '_') (((c :: rest) :: others.map capitalised).map (List.map lowerChar)) :=
        map_joinPieces ..
      _ = snakeName ((c :: rest) :: others) := by
        rw [List.map_cons, hwords, map_lowerChar_of_small hfirst.small, lowerChar_of_isSmall (by decide)]
        rfl

/-- A key in either spelling of a name stands for the name in snake case. -/
theorem fieldName_of_words {words : List (List Char)} (h : ∀ word ∈ words, IsWord word) :
    fieldName (String.ofList (camelName words)) = String.ofList (snakeName words) ∧
      fieldName (String.ofList (snakeName words)) = String.ofList (snakeName words) := by
  rw [fieldName, fieldName, Text.Codes.shown_ofString, Text.Codes.shown_ofString, String.toList_ofList,
    String.toList_ofList, snakeCase_camelName h, snakeCase_snakeName h]
  exact ⟨rfl, rfl⟩

end LintBridge.Settings
