-- SUMMARY: Versions are written in cases of ASCII characters, and the search for a version in a text loses none.
import LintBridge.Proofs.Version.Run

/-!
# Characters of versions

The reader of versions takes ASCII characters only, and other cases of ASCII letters, which are no digits. So the first
dotted run in a version is one of ASCII digits, and a version itself: a text in which no version is found is none as a
whole.
-/

namespace LintBridge.Version

open Text

variable {rule : CaseRule} {α : Type} {s rest rest' : List Char}

/-! ## Characters of versions -/

/-- An ASCII character, or another case of one. -/
def isCaseOfAscii (c : Char) : Bool := isAscii c || (otherCases.map Prod.fst).contains c

theorem isCaseOfAscii_of_isAscii {c : Char} (h : isAscii c) : isCaseOfAscii c := by
  rw [isCaseOfAscii, h, Bool.true_or]

theorem isCaseOfAscii_of_foldCase (rule : CaseRule) {c : Char} (h : isAscii (foldCase rule c)) : isCaseOfAscii c := by
  rcases foldCase_cases rule c with hc | hc
  · exact isCaseOfAscii_of_isAscii (isAscii_of_toLower (hc ▸ h))
  · rw [isCaseOfAscii, List.contains_iff_mem.2 hc, Bool.or_true]

/-- The cases of ASCII characters beyond ASCII are no digits. -/
theorem isDecimalDigit_iff_of_isCaseOfAscii {c : Char} (h : isCaseOfAscii c) :
    isDecimalDigit c ↔ Decimal.isDigit c := by
  rw [isCaseOfAscii, Bool.or_eq_true, List.contains_iff_mem] at h
  rcases h with hascii | hother
  · exact isDecimalDigit_iff_of_isAscii hascii
  · refine ⟨fun hdigit => absurd hdigit ?_, isDecimalDigit_of_isDigit⟩
    simp only [otherCases, List.map_cons, List.map_nil, List.mem_cons, List.not_mem_nil, or_false] at hother
    rcases hother with rfl | rfl | rfl | rfl <;> decide +kernel

/-! ## What readers take -/

/-- What a reader leaves of a text lies behind cases of ASCII characters. -/
def TakesAscii (s rest : List Char) : Prop := ∃ taken, s = taken ++ rest ∧ ∀ c ∈ taken, isCaseOfAscii c

theorem TakesAscii.refl (s : List Char) : TakesAscii s s := ⟨[], rfl, by simp⟩

theorem TakesAscii.trans (h : TakesAscii s rest) (h' : TakesAscii rest rest') : TakesAscii s rest' := by
  obtain ⟨taken, rfl, htaken⟩ := h
  obtain ⟨taken', rfl, htaken'⟩ := h'
  exact ⟨taken ++ taken', (List.append_assoc ..).symm, List.forall_mem_append.2 ⟨htaken, htaken'⟩⟩

theorem TakesAscii.cons {c : Char} (hc : isCaseOfAscii c) (h : TakesAscii s rest) : TakesAscii (c :: s) rest := by
  obtain ⟨taken, rfl, htaken⟩ := h
  exact ⟨c :: taken, rfl, List.forall_mem_cons.2 ⟨hc, htaken⟩⟩

theorem TakesAscii.dropWhile {p : Char → Bool} (hp : ∀ c, p c → isCaseOfAscii c) (s : List Char) :
    TakesAscii s (s.dropWhile p) :=
  ⟨s.takeWhile p, List.takeWhile_append_dropWhile.symm, fun c hc => hp c (List.mem_takeWhile_imp hc)⟩

theorem isCaseOfAscii_of_isBuildChar {c : Char} (h : isBuildChar rule c) : isCaseOfAscii c := by
  simp only [isBuildChar, Bool.or_eq_true, Bool.and_eq_true, decide_eq_true_eq] at h
  rcases h with hdigit | ⟨-, hletter⟩
  · exact isCaseOfAscii_of_isAscii (isAscii_of_isDigit hdigit)
  · refine isCaseOfAscii_of_foldCase rule ?_
    have hletter : (foldCase rule c).toNat ≤ 122 := hletter
    simp only [isAscii, decide_eq_true_eq]
    omega

theorem isAscii_of_isSeparator {c : Char} (h : isSeparator c) : isAscii c := by
  simp only [isSeparator, Bool.or_eq_true, beq_iff_eq] at h
  rcases h with (rfl | rfl) | rfl <;> rfl

/-- All words are written in ASCII letters. -/
def asciiWords (words : List (String × α)) : Bool := words.all (·.1.toList.all isAscii)

theorem takesAscii_dropWord {word : List Char} (hword : word.all isAscii) (h : dropWord? rule word s = some rest) :
    TakesAscii s rest := by
  fun_induction dropWord? rule word s with
  | case1 =>
    cases h
    exact .refl _
  | case2 => cases h
  | case3 word c s ih =>
    rw [List.all_cons, Bool.and_eq_true] at hword
    exact .cons (isCaseOfAscii_of_foldCase rule hword.1) (ih hword.2 h)
  | case4 => cases h

theorem takesAscii_dropAnyWord {words : List (String × α)} (hwords : asciiWords words) {a : α}
    (h : dropAnyWord? rule words s = some (a, rest)) : TakesAscii s rest := by
  fun_induction dropAnyWord? rule words s with
  | case1 => cases h
  | case2 s word a' words rest' hword =>
    cases h
    rw [asciiWords, List.all_cons, Bool.and_eq_true] at hwords
    exact takesAscii_dropWord hwords.1 hword
  | case3 s word a' words hword ih =>
    rw [asciiWords, List.all_cons, Bool.and_eq_true] at hwords
    exact ih hwords.2 h

theorem takesAscii_dropSeparator (s : List Char) : TakesAscii s (dropSeparator s) := by
  fun_cases dropSeparator s with
  | case1 c rest hc =>
    exact .cons (isCaseOfAscii_of_isAscii (isAscii_of_isSeparator hc)) (.refl rest)
  | case2 => exact .refl _
  | case3 => exact .refl _

theorem takesAscii_decimal {n : Nat} (h : Decimal.read? s = some (n, rest)) : TakesAscii s rest := by
  simp only [Decimal.read?, Option.ite_none_left_eq_some, Option.some.injEq, Prod.mk.injEq] at h
  rw [← h.2.2]
  exact .dropWhile (fun _ hc => isCaseOfAscii_of_isAscii (isAscii_of_isDigit hc)) s

theorem takesAscii_readCount (s : List Char) : TakesAscii s (readCount s).2 := by
  unfold readCount
  cases h : Decimal.read? s with
  | none => exact .refl s
  | some read => exact takesAscii_decimal h

theorem takesAscii_readPart (rule : CaseRule) {words : List (String × α)} (hwords : asciiWords words) {part : α × Nat}
    (h : readPart? rule words s = some (part, rest)) : TakesAscii s rest := by
  unfold readPart? at h
  split at h
  next => cases h
  next a rest' hword =>
    cases h
    refine (takesAscii_dropSeparator s).trans ((takesAscii_dropAnyWord hwords hword).trans ?_)
    exact (takesAscii_dropSeparator rest').trans (takesAscii_readCount _)

theorem takesAscii_optionalPart {read? : List Char → Option (α × List Char)}
    (h : ∀ a rest, read? s = some (a, rest) → TakesAscii s rest) : TakesAscii s (optionalPart read? s).2 := by
  unfold optionalPart
  split
  next a rest hread => exact h a rest hread
  next => exact .refl s

/-- The count of a part with words. -/
theorem takesAscii_countedPart {words : List (String × α)} (hwords : asciiWords words) {n : Nat}
    (h : (readPart? rule words s).map (fun (part, rest) => (part.2, rest)) = some (n, rest)) : TakesAscii s rest := by
  obtain ⟨⟨part, rest'⟩, hpart, heq⟩ := Option.map_eq_some_iff.1 h
  cases heq
  exact takesAscii_readPart rule hwords hpart

theorem asciiWords_pre : asciiWords preWords := by decide +kernel

theorem asciiWords_post : asciiWords postWords := by decide +kernel

theorem asciiWords_dev : asciiWords devWords := by decide +kernel

theorem takesAscii_readPost {n : Nat} (h : readPost? rule s = some (n, rest)) : TakesAscii s rest := by
  unfold readPost? at h
  split at h
  next after =>
    rcases Option.or_eq_some_iff.1 h with hnumber | ⟨-, hword⟩
    · exact .cons (by decide) (takesAscii_decimal hnumber)
    · exact takesAscii_countedPart asciiWords_post hword
  next => exact takesAscii_countedPart asciiWords_post h

theorem takesAscii_readDev {n : Nat} (h : readDev? rule s = some (n, rest)) : TakesAscii s rest :=
  takesAscii_countedPart asciiWords_dev h

theorem takesAscii_readMinor (fuel : Nat) (s : List Char) : TakesAscii s (readMinor fuel s).2 := by
  fun_induction readMinor fuel s with
  | case1 fuel after n rest hnumber numbers rest' hmore ih =>
    rw [hmore] at ih
    exact .cons (by decide) ((takesAscii_decimal hnumber).trans ih)
  | case2 => exact .refl _
  | case3 => exact .refl _

theorem takesAscii_readEpoch {n : Nat} (h : readEpoch? s = some (n, rest)) : TakesAscii s rest := by
  unfold readEpoch? at h
  split at h
  next n' after hnumber =>
    cases h
    exact (takesAscii_decimal hnumber).trans (.cons (by decide) (.refl _))
  next => cases h

theorem takesAscii_readSegments {fuel : Nat} {segments : List String}
    (h : readSegments? rule fuel s = some (segments, rest)) : TakesAscii s rest := by
  induction fuel generalizing s segments rest with
  | zero => cases h
  | succ fuel ih =>
    have hsegment : TakesAscii s (s.dropWhile (isBuildChar rule)) :=
      .dropWhile (fun _ => isCaseOfAscii_of_isBuildChar) s
    simp only [readSegments?] at h
    split at h
    next => cases h
    next =>
      split at h
      next segments' rest' hmore =>
        cases h
        split at hmore
        next c after hbehind =>
          rw [hbehind] at hsegment
          split at hmore
          next hseparator =>
            exact hsegment.trans (.cons (isCaseOfAscii_of_isAscii (isAscii_of_isSeparator hseparator)) (ih hmore))
          next => cases hmore
        next => cases hmore
      next =>
        cases h
        exact hsegment

theorem takesAscii_readBuild {segments : List String} (h : readBuild? rule s = some (segments, rest)) :
    TakesAscii s rest := by
  unfold readBuild? at h
  split at h
  next => exact .cons (by decide) (takesAscii_readSegments h)
  next => cases h

theorem takesAscii_read {version : Version} (h : read? rule s = some (version, rest)) : TakesAscii s rest := by
  have hword : TakesAscii s ((dropWord? rule ['v'] s).getD s) := by
    cases hword : dropWord? rule ['v'] s with
    | none => exact .refl s
    | some after => exact takesAscii_dropWord (by decide) hword
  have hepoch (s : List Char) : TakesAscii s ((readEpoch? s).getD (0, s)).2 := by
    cases hepoch : readEpoch? s with
    | none => exact .refl s
    | some read => exact takesAscii_readEpoch hepoch
  unfold read? at h
  simp only [Option.bind_eq_bind, Option.bind_eq_some_iff] at h
  obtain ⟨⟨major, s₁⟩, hmajor, h⟩ := h
  simp only [Option.pure_def, Option.some.injEq, Prod.mk.injEq] at h
  rw [← h.2]
  refine hword.trans ((hepoch _).trans ((takesAscii_decimal hmajor).trans ?_))
  have hpre (s : List Char) : TakesAscii s (optionalPart (readPart? rule preWords) s).2 :=
    takesAscii_optionalPart fun _ _ => takesAscii_readPart rule asciiWords_pre
  have hpost (s : List Char) : TakesAscii s (optionalPart (readPost? rule) s).2 :=
    takesAscii_optionalPart fun _ _ => takesAscii_readPost
  have hdev (s : List Char) : TakesAscii s (optionalPart (readDev? rule) s).2 :=
    takesAscii_optionalPart fun _ _ => takesAscii_readDev
  have hbuild (s : List Char) : TakesAscii s (optionalPart (readBuild? rule) s).2 :=
    takesAscii_optionalPart fun _ _ => takesAscii_readBuild
  exact (takesAscii_readMinor s₁.length s₁).trans
    ((hpre _).trans ((hpost _).trans ((hdev _).trans (hbuild _))))

/-! ## Versions in texts -/

/-- A version is written in cases of ASCII characters, up to the blanks around it. -/
theorem isCaseOfAscii_or_isBlank (h : (ofText? rule s).isSome) : ∀ c ∈ s, isCaseOfAscii c ∨ isBlank c := by
  unfold ofText? at h
  split at h
  next version rest hread =>
    obtain ⟨taken, htaken, hascii⟩ := takesAscii_read hread
    split at h
    next hrest =>
      intro c hc
      rw [← List.takeWhile_append_dropWhile (p := isBlank) (l := s), htaken, List.mem_append,
        List.mem_append] at hc
      rcases hc with hblank | htaken | hrest'
      · exact .inr (List.mem_takeWhile_imp hblank)
      · exact .inl (hascii c htaken)
      · exact .inr (List.all_eq_true.1 hrest c hrest')
    next => cases h
  next => cases h

/-- The digits in a version are ASCII digits. -/
theorem isDigit_of_isDecimalDigit (h : (ofText? rule s).isSome) {c : Char} (hc : c ∈ s) (hdigit : isDecimalDigit c) :
    Decimal.isDigit c := by
  rcases isCaseOfAscii_or_isBlank h c hc with hascii | hblank
  · exact (isDecimalDigit_iff_of_isCaseOfAscii hascii).1 hdigit
  · exact absurd hdigit (not_isDecimalDigit_of_isBlank hblank)

/-- The first dotted run in a version is a run of ASCII digits. -/
theorem exists_of_dottedRun (h : (ofText? rule s).isSome) {run : List Char} (hrun : dottedRun? s = some run) :
    ∃ first others, AreNumbers Decimal.isDigit (first :: others) ∧ run = joinPieces '.' (first :: others) := by
  obtain ⟨before, numbers, rest, hnumbers, -, rfl, hs⟩ := dottedRun_eq_some hrun
  have hmem : ∀ number ∈ numbers, ∀ c ∈ number, c ∈ s := by
    intro number hnumber c hc
    rw [hs]
    exact List.mem_append_right _ (List.mem_append_left _ (mem_joinPieces '.' hnumber hc))
  have hdigits : AreNumbers Decimal.isDigit numbers :=
    hnumbers.areNumbers.mono fun number hnumber c hc => isDigit_of_isDecimalDigit h (hmem number hnumber c hc)
  match numbers, hnumbers.two with
  | first :: others, _ => exact ⟨first, others, hdigits, rfl⟩

/-- The first dotted run in a version is a version. -/
theorem isSome_of_dottedRun (h : (ofText? rule s).isSome) {run : List Char} (hrun : dottedRun? s = some run) :
    (ofText? rule run).isSome := by
  obtain ⟨first, others, hnumbers, rfl⟩ := exists_of_dottedRun h hrun
  rw [ofText?_joinPieces hnumbers, Option.isSome_some]

/-- A text in which no version is found is none as a whole. -/
theorem ofText?_trim_eq_none (h : ofText? rule (candidate s) = none) : ofText? rule (trim isBlank s) = none := by
  rw [← candidate_trim, candidate, trim_trim] at h
  cases hrun : dottedRun? (trim isBlank s) with
  | none => rwa [hrun] at h
  | some run =>
    rw [← Option.not_isSome_iff_eq_none]
    intro hsome
    have hfound := isSome_of_dottedRun hsome hrun
    rw [hrun, Option.getD_some] at h
    rw [h] at hfound
    cases hfound

end LintBridge.Version
