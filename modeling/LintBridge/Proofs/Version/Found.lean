-- SUMMARY: Which part of a version the search for a version in a text finds.
import LintBridge.Proofs.Version.Surrounded

/-!
# The version found in a version

Between the release and the local part of a version no two numbers stand around a point. So the search finds the
release, if that has two numbers or more, and else it goes on in the local part.
-/

namespace LintBridge.Version

open Text

variable {rule : CaseRule} {α : Type} {s rest : List Char} {v : Version}

/-! ## Words -/

/-- A character that words are written with, in either case. -/
def isWordChar (rule : CaseRule) (c : Char) : Bool := 'a' ≤ foldCase rule c && foldCase rule c ≤ 'z'

/-- The words are not empty, and written in small letters. -/
def areWords (words : List (String × α)) : Bool :=
  words.all fun word => word.1 ≠ "" && word.1.toList.all fun w => 'a' ≤ w && w ≤ 'z'

theorem not_isWordChar_of_lt {c : Char} (h : c.toNat < 65) : ¬isWordChar rule c := by
  rw [isWordChar, foldCase_of_lt h]
  simp only [Bool.and_eq_true, decide_eq_true_eq, not_and]
  intro hlow
  have hlow : 97 ≤ c.toNat := hlow
  omega

theorem not_isDecimalDigit_of_isWordChar {c : Char} (h : isWordChar rule c) : ¬isDecimalDigit c := by
  intro hdigit
  have hascii : isCaseOfAscii c := isCaseOfAscii_of_isBuildChar (by rw [isBuildChar, ← isWordChar, h, Bool.or_true])
  have hbounds := isDigit_iff.1 ((isDecimalDigit_iff_of_isCaseOfAscii hascii).1 hdigit)
  exact not_isWordChar_of_lt (by omega) h

theorem ne_of_isWordChar {c mark : Char} (h : isWordChar rule c) (hmark : mark.toNat < 65) : c ≠ mark := by
  rintro rfl
  exact not_isWordChar_of_lt hmark h

theorem exists_of_dropWord {word : List Char} (hword : word.all fun w => 'a' ≤ w && w ≤ 'z')
    (h : dropWord? rule word s = some rest) :
    ∃ taken, s = taken ++ rest ∧ taken.length = word.length ∧ ∀ c ∈ taken, isWordChar rule c := by
  fun_induction dropWord? rule word s with
  | case1 s =>
    cases h
    exact ⟨[], rfl, rfl, by simp⟩
  | case2 => cases h
  | case3 word c s ih =>
    rw [List.all_cons, Bool.and_eq_true] at hword
    obtain ⟨taken, rfl, hlength, htaken⟩ := ih hword.2 h
    exact ⟨c :: taken, rfl, by simp [hlength], List.forall_mem_cons.2 ⟨hword.1, htaken⟩⟩
  | case4 => cases h

theorem exists_of_dropAnyWord {words : List (String × α)} (hwords : areWords words) {a : α}
    (h : dropAnyWord? rule words s = some (a, rest)) :
    ∃ c taken, s = c :: taken ++ rest ∧ isWordChar rule c ∧ ∀ c ∈ taken, isWordChar rule c := by
  induction words with
  | nil => cases h
  | cons word words ih =>
    simp only [areWords, List.all_cons, Bool.and_eq_true, decide_eq_true_eq] at hwords
    rw [dropAnyWord?] at h
    split at h
    next rest' hword =>
      cases h
      obtain ⟨taken, rfl, hlength, htaken⟩ := exists_of_dropWord hwords.1.2 hword
      cases taken with
      | nil =>
        have hempty : word.1.toList = [] := List.eq_nil_of_length_eq_zero hlength.symm
        exact absurd (String.toList_eq_nil_iff.1 hempty) hwords.1.1
      | cons c taken =>
        rw [List.forall_mem_cons] at htaken
        exact ⟨c, taken, rfl, htaken⟩
    next => exact ih hwords.2 h

/-! ## Parts without runs -/

/-- The local part of a version text, with its mark. -/
def localPart (s : List Char) : List Char := s.dropWhile (· ≠ '+')

theorem localPart_append {taken : List Char} (h : ∀ c ∈ taken, c ≠ '+') (rest : List Char) :
    localPart (taken ++ rest) = localPart rest :=
  List.dropWhile_append_of_pos fun c hc => by simpa using h c hc

/-- Between two places of a text there is no run and no local part: a search that comes to the first with a number
goes on at the second with a number. -/
structure Passes (s rest : List Char) : Prop where
  run : ∀ digits, (∀ c ∈ digits, Decimal.isDigit c) →
    ∃ digits', (∀ c ∈ digits', Decimal.isDigit c) ∧ dottedRun? (digits ++ s) = dottedRun? (digits' ++ rest)
  mark : localPart s = localPart rest

theorem Passes.refl (s : List Char) : Passes s s := ⟨fun digits hdigits => ⟨digits, hdigits, rfl⟩, rfl⟩

theorem Passes.trans {rest' : List Char} (h : Passes s rest) (h' : Passes rest rest') : Passes s rest' where
  run digits hdigits := by
    obtain ⟨digits₁, hdigits₁, hrun₁⟩ := h.run digits hdigits
    obtain ⟨digits₂, hdigits₂, hrun₂⟩ := h'.run digits₁ hdigits₁
    exact ⟨digits₂, hdigits₂, hrun₁.trans hrun₂⟩
  mark := h.mark.trans h'.mark

theorem ne_plus_of_isDigit {c : Char} (h : Decimal.isDigit c) : c ≠ '+' := by
  rintro rfl
  cases h

theorem ne_plus_of_isSeparator {c : Char} (h : isSeparator c) : c ≠ '+' := by
  rintro rfl
  cases h

theorem not_isDecimalDigit_of_isSeparator {c : Char} (h : isSeparator c) : ¬isDecimalDigit c := by
  rw [isDecimalDigit_iff_of_isAscii (isAscii_of_isSeparator h)]
  rintro hdigit
  simp only [isSeparator, Bool.or_eq_true, beq_iff_eq] at h
  rcases h with (rfl | rfl) | rfl <;> cases hdigit

theorem exists_of_dropSeparator (s : List Char) :
    ∃ taken, s = taken ++ dropSeparator s ∧ ∀ c ∈ taken, isSeparator c := by
  fun_cases dropSeparator s with
  | case1 c rest hc => exact ⟨[c], rfl, by simpa using hc⟩
  | case2 => exact ⟨[], rfl, by simp⟩
  | case3 => exact ⟨[], rfl, by simp⟩

theorem exists_of_decimal_read {n : Nat} (h : Decimal.read? s = some (n, rest)) :
    ∃ digits, s = digits ++ rest ∧ digits ≠ [] ∧ (∀ c ∈ digits, Decimal.isDigit c) ∧ Decimal.value digits = n ∧
      Stops Decimal.isDigit rest := by
  simp only [Decimal.read?, Option.ite_none_left_eq_some, Option.some.injEq, Prod.mk.injEq, List.isEmpty_iff] at h
  obtain ⟨hne, hvalue, rfl⟩ := h
  exact ⟨s.takeWhile Decimal.isDigit, List.takeWhile_append_dropWhile.symm, hne,
    fun c hc => List.mem_takeWhile_imp hc, hvalue, stops_dropWhile _ _⟩

/-- The count of a part is passed. -/
theorem exists_of_readCount (s : List Char) :
    ∃ digits, s = digits ++ (readCount s).2 ∧ ∀ c ∈ digits, Decimal.isDigit c := by
  unfold readCount
  cases h : Decimal.read? s with
  | none => exact ⟨[], rfl, by simp⟩
  | some number =>
    obtain ⟨digits, hs, -, hdigits, -⟩ := exists_of_decimal_read h
    exact ⟨digits, hs, hdigits⟩

/-- A part with a word: separators, a word with what follows it, and digits. -/
theorem exists_of_readPart {words : List (String × α)} (hwords : areWords words) {part : α × Nat}
    (h : readPart? rule words s = some (part, rest)) :
    ∃ front c between count, s = front ++ c :: between ++ (count ++ rest) ∧ (∀ c ∈ front, isSeparator c) ∧
      isWordChar rule c ∧ (∀ c ∈ between, isWordChar rule c ∨ isSeparator c) ∧ ∀ c ∈ count, Decimal.isDigit c := by
  unfold readPart? at h
  split at h
  next => cases h
  next a behind hword =>
    cases h
    obtain ⟨front, hs, hfront⟩ := exists_of_dropSeparator s
    obtain ⟨c, taken, hs', hc, htaken⟩ := exists_of_dropAnyWord hwords hword
    obtain ⟨separators, hbehind, hseparators⟩ := exists_of_dropSeparator behind
    obtain ⟨count, hcount, hdigits⟩ := exists_of_readCount (dropSeparator behind)
    refine ⟨front, c, taken ++ separators, count, ?_, hfront, hc, ?_, hdigits⟩
    · calc
        s = front ++ (c :: taken ++ behind) := by rw [← hs', ← hs]
        _ = front ++ (c :: taken ++ (separators ++ (count ++ (readCount (dropSeparator behind)).2))) := by
          rw [← hcount, ← hbehind]
        _ = _ := by simp only [List.append_assoc, List.cons_append]; rfl
    · exact List.forall_mem_append.2 ⟨fun c hc => .inl (htaken c hc), fun c hc => .inr (hseparators c hc)⟩

/-- Separators before a word do not continue a run. -/
theorem endsRun_of_word {c : Char} (hc : isWordChar rule c) {front : List Char} (hfront : ∀ c ∈ front, isSeparator c)
    (tail : List Char) : EndsRun (front ++ c :: tail) := by
  have hdigit : Stops isDecimalDigit (c :: tail) := stops_cons (not_isDecimalDigit_of_isWordChar hc)
  cases front with
  | nil => exact .cons (not_isDecimalDigit_of_isWordChar hc) (ne_of_isWordChar hc (by decide))
  | cons mark front =>
    rw [List.forall_mem_cons] at hfront
    refine ⟨stops_cons (not_isDecimalDigit_of_isSeparator hfront.1), ?_⟩
    rintro after heq
    obtain ⟨-, rfl⟩ := List.cons.inj heq
    exact (stops_of_forall_not fun c hc => not_isDecimalDigit_of_isSeparator (hfront.2 c hc)).append hdigit

/-- A part with a word is passed. -/
theorem passes_readPart (rule : CaseRule) {words : List (String × α)} (hwords : areWords words) {part : α × Nat}
    (h : readPart? rule words s = some (part, rest)) : Passes s rest := by
  obtain ⟨front, c, between, count, rfl, hfront, hc, hbetween, hcount⟩ := exists_of_readPart hwords h
  constructor
  · intro digits hdigits
    refine ⟨count, hcount, ?_⟩
    have hends : EndsRun (front ++ c :: between ++ (count ++ rest)) := by
      rw [List.append_assoc]
      exact endsRun_of_word hc hfront _
    have hnone : ∀ d ∈ front ++ c :: between, ¬isDecimalDigit d := by
      refine List.forall_mem_append.2 ⟨fun c hc => not_isDecimalDigit_of_isSeparator (hfront c hc), ?_⟩
      refine List.forall_mem_cons.2 ⟨not_isDecimalDigit_of_isWordChar hc, fun c hc => ?_⟩
      exact (hbetween c hc).elim not_isDecimalDigit_of_isWordChar not_isDecimalDigit_of_isSeparator
    rw [dottedRun_append_number (fun c hc => isDecimalDigit_of_isDigit (hdigits c hc)) hends,
      dottedRun_append_left hnone]
  · have hplus : ∀ d ∈ front ++ c :: between, d ≠ '+' := by
      refine List.forall_mem_append.2 ⟨fun c hc => ne_plus_of_isSeparator (hfront c hc), ?_⟩
      refine List.forall_mem_cons.2 ⟨ne_of_isWordChar hc (by decide), fun c hc => ?_⟩
      exact (hbetween c hc).elim (ne_of_isWordChar · (by decide)) ne_plus_of_isSeparator
    rw [localPart_append hplus, localPart_append fun c hc => ne_plus_of_isDigit (hcount c hc)]

theorem passes_countedPart (rule : CaseRule) {words : List (String × α)} (hwords : areWords words) {n : Nat}
    (h : (readPart? rule words s).map (fun (part, rest) => (part.2, rest)) = some (n, rest)) : Passes s rest := by
  obtain ⟨⟨part, rest'⟩, hpart, heq⟩ := Option.map_eq_some_iff.1 h
  cases heq
  exact passes_readPart rule hwords hpart

/-- A number right after a hyphen is passed. -/
theorem passes_hyphen {n : Nat} (h : Decimal.read? s = some (n, rest)) : Passes ('-' :: s) rest := by
  obtain ⟨number, rfl, -, hnumber, -⟩ := exists_of_decimal_read h
  have hhyphen : ¬isDecimalDigit '-' := by decide +kernel
  have hplus : ∀ c ∈ '-' :: number, c ≠ '+' :=
    List.forall_mem_cons.2 ⟨by decide, fun c hc => ne_plus_of_isDigit (hnumber c hc)⟩
  constructor
  · intro digits hdigits
    refine ⟨number, hnumber, ?_⟩
    rw [dottedRun_append_number (fun c hc => isDecimalDigit_of_isDigit (hdigits c hc))
      (.cons hhyphen (by decide))]
    exact dottedRun_append_left (List.forall_mem_singleton.2 hhyphen) (number ++ rest)
  · exact localPart_append hplus rest

theorem areWords_pre : areWords preWords := by decide +kernel

theorem areWords_post : areWords postWords := by decide +kernel

theorem areWords_dev : areWords devWords := by decide +kernel

theorem passes_readPost {n : Nat} (h : readPost? rule s = some (n, rest)) : Passes s rest := by
  unfold readPost? at h
  split at h
  next after =>
    rcases Option.or_eq_some_iff.1 h with hnumber | ⟨-, hword⟩
    · exact passes_hyphen hnumber
    · exact passes_countedPart rule areWords_post hword
  next => exact passes_countedPart rule areWords_post h

theorem passes_optionalPart {read? : List Char → Option (α × List Char)}
    (h : ∀ a rest, read? s = some (a, rest) → Passes s rest) : Passes s (optionalPart read? s).2 := by
  unfold optionalPart
  split
  next a rest hread => exact h a rest hread
  next => exact .refl s

/-! ## The release -/

/-- All digits of a text are ASCII digits. -/
def DigitsAscii (s : List Char) : Prop := ∀ c ∈ s, isDecimalDigit c → Decimal.isDigit c

theorem DigitsAscii.stops (h : DigitsAscii s) (hs : Stops Decimal.isDigit s) : Stops isDecimalDigit s :=
  fun c hc hdigit => hs c hc (h c (List.mem_of_mem_head? hc) hdigit)

theorem DigitsAscii.suffix (h : DigitsAscii s) (hrest : rest <:+ s) : DigitsAscii rest :=
  fun c hc => h c (hrest.subset hc)

/-- The numbers of a release after the first are read as far as they go. -/
theorem exists_of_readMinor {fuel : Nat} {minor : List Nat} (hs : DigitsAscii s) (hstops : Stops Decimal.isDigit s)
    (hfuel : s.length ≤ fuel) (h : readMinor fuel s = (minor, rest)) :
    ∃ numbers, AreNumbers Decimal.isDigit numbers ∧ numbers.map Decimal.value = minor ∧ EndsRun rest ∧
      s = numbers.flatMap ('.' :: ·) ++ rest := by
  -- the fuel bounds the length of what is left, so reading never stops for want of it
  fun_induction readMinor fuel s generalizing minor rest with
  | case1 fuel after n behind hnumber minor' rest' hmore ih =>
    cases h
    obtain ⟨number, rfl, hne, hdigits, rfl, hbehind⟩ := exists_of_decimal_read hnumber
    rw [List.length_cons, List.length_append] at hfuel
    obtain ⟨numbers, hnumbers, rfl, hends, rfl⟩ :=
      ih (hs.suffix (List.suffix_append ('.' :: number) _)) hbehind (by omega) hmore
    refine ⟨number :: numbers, List.forall_mem_cons.2 ⟨⟨hne, hdigits⟩, hnumbers⟩, rfl, hends, ?_⟩
    rw [List.flatMap_cons, List.cons_append, List.cons_append, List.append_assoc]
  | case2 fuel after hnumber =>
    cases h
    refine ⟨[], by simp [AreNumbers], rfl, ⟨hs.stops hstops, ?_⟩, rfl⟩
    rintro after' ⟨⟩
    have hnone : after.takeWhile Decimal.isDigit = [] := by
      simpa [Decimal.read?] using hnumber
    exact (hs.suffix (List.suffix_cons '.' after)).stops (stops_of_takeWhile hnone)
  | case3 fuel s hend =>
    cases h
    refine ⟨[], by simp [AreNumbers], rfl, ⟨hs.stops hstops, ?_⟩, rfl⟩
    rintro after rfl
    cases fuel with
    | zero => cases hfuel
    | succ fuel => exact absurd rfl (hend fuel after rfl)

/-- What stands in front of a place of a text holds no run and no local part, and does not continue at it. -/
structure Skips (s rest : List Char) : Prop where
  suffix : rest <:+ s
  run : dottedRun? s = dottedRun? rest
  mark : localPart s = localPart rest

theorem Skips.refl (s : List Char) : Skips s s := ⟨List.suffix_refl s, rfl, rfl⟩

theorem Skips.trans {rest' : List Char} (h : Skips s rest) (h' : Skips rest rest') : Skips s rest' :=
  ⟨h'.suffix.trans h.suffix, h.run.trans h'.run, h.mark.trans h'.mark⟩

theorem Skips.front {front : List Char} (hdigit : ∀ c ∈ front, ¬isDecimalDigit c) (hplus : ∀ c ∈ front, c ≠ '+')
    (rest : List Char) : Skips (front ++ rest) rest :=
  ⟨List.suffix_append front rest, dottedRun_append_left hdigit rest, localPart_append hplus rest⟩

theorem Skips.number {digits : List Char} (hdigits : ∀ c ∈ digits, Decimal.isDigit c) (hrest : EndsRun rest) :
    Skips (digits ++ rest) rest where
  suffix := List.suffix_append digits rest
  run := dottedRun_append_number (fun c hc => isDecimalDigit_of_isDigit (hdigits c hc)) hrest
  mark := localPart_append (fun c hc => ne_plus_of_isDigit (hdigits c hc)) rest

theorem skips_blanks (s : List Char) : Skips s (s.dropWhile isBlank) := by
  have hblanks : ∀ c ∈ s.takeWhile isBlank, isBlank c := fun c hc => List.mem_takeWhile_imp hc
  have hplus : ∀ c ∈ s.takeWhile isBlank, c ≠ '+' := by
    rintro c hc rfl
    cases hblanks _ hc
  have hskips := Skips.front (fun c hc => not_isDecimalDigit_of_isBlank (hblanks c hc)) hplus (s.dropWhile isBlank)
  rwa [List.takeWhile_append_dropWhile] at hskips

theorem skips_mark (rule : CaseRule) (s : List Char) : Skips s ((dropWord? rule ['v'] s).getD s) := by
  cases h : dropWord? rule ['v'] s with
  | none => exact .refl s
  | some after =>
    obtain ⟨taken, rfl, -, htaken⟩ := exists_of_dropWord (by decide) h
    exact .front (fun c hc => not_isDecimalDigit_of_isWordChar (htaken c hc))
      (fun c hc => ne_of_isWordChar (htaken c hc) (by decide)) after

theorem skips_epoch (s : List Char) : Skips s ((readEpoch? s).getD (0, s)).2 := by
  cases h : readEpoch? s with
  | none => exact .refl s
  | some epoch =>
    unfold readEpoch? at h
    split at h
    next n after hnumber =>
      cases h
      obtain ⟨digits, rfl, -, hdigits, -⟩ := exists_of_decimal_read hnumber
      have hmark : ¬isDecimalDigit '!' := by decide +kernel
      have hnumber : Skips (digits ++ '!' :: after) ('!' :: after) :=
        .number hdigits (.cons hmark (by decide))
      exact hnumber.trans (.front (List.forall_mem_singleton.2 hmark) (by simp) after)
    next => cases h

/-- How a version is laid out: the numbers of the release with points between them, behind what the search skips,
then parts without runs, and then the local part or the end. -/
structure IsLayout (s : List Char) (v : Version) (rest first : List Char) (others : List (List Char))
    (middle build : List Char) : Prop where
  skips : Skips s (joinPieces '.' (first :: others) ++ middle)
  numbers : AreNumbers Decimal.isDigit (first :: others)
  major : Decimal.value first = v.major
  minor : others.map Decimal.value = v.minor
  ends : EndsRun middle
  passes : Passes middle build
  build : build = rest ∨ ∃ after, build = '+' :: after

theorem eq_plus_of_readBuild {segments : List String} (h : readBuild? rule s = some (segments, rest)) :
    ∃ after, s = '+' :: after := by
  unfold readBuild? at h
  split at h
  next after => exact ⟨after, rfl⟩
  next => cases h

/-- A version that is read is laid out so. -/
theorem exists_layout (hs : DigitsAscii s) (h : read? rule s = some (v, rest)) :
    ∃ first others middle build, IsLayout s v rest first others middle build := by
  unfold read? at h
  simp only [Option.bind_eq_bind, Option.bind_eq_some_iff] at h
  obtain ⟨⟨major, s₁⟩, hmajor, h⟩ := h
  simp only [Option.pure_def, Option.some.injEq, Prod.mk.injEq] at h
  obtain ⟨rfl, rfl⟩ := h
  have hskips := (skips_mark rule s).trans (skips_epoch _)
  obtain ⟨first, hfirst, hne, hdigits, hvalue, hstops⟩ := exists_of_decimal_read hmajor
  rw [hfirst] at hskips
  have hs₁ : DigitsAscii s₁ := hs.suffix ((List.suffix_append first s₁).trans hskips.suffix)
  obtain ⟨others, hothers, hminor, hends, hrelease⟩ := exists_of_readMinor hs₁ hstops (Nat.le_refl _) rfl
  have hbuild (t : List Char) : t = (optionalPart (readBuild? rule) t).2 ∨ ∃ after, t = '+' :: after := by
    unfold optionalPart
    split
    next hread => exact .inr (eq_plus_of_readBuild hread)
    next => exact .inl rfl
  refine ⟨first, others, _, _, ?_, List.forall_mem_cons.2 ⟨⟨hne, hdigits⟩, hothers⟩, hvalue, hminor, hends, ?_,
    hbuild _⟩
  · rwa [joinPieces_eq_flatMap, List.append_assoc, ← hrelease]
  · have hpre (s : List Char) : Passes s (optionalPart (readPart? rule preWords) s).2 :=
      passes_optionalPart fun _ _ => passes_readPart rule areWords_pre
    have hpost (s : List Char) : Passes s (optionalPart (readPost? rule) s).2 :=
      passes_optionalPart fun _ _ => passes_readPost
    have hdev (s : List Char) : Passes s (optionalPart (readDev? rule) s).2 :=
      passes_optionalPart fun _ _ => passes_countedPart rule areWords_dev
    exact (hpre _).trans ((hpost _).trans (hdev _))

/-! ## The version found -/

/-- Where a run can begin behind the parts without runs, the local part begins. -/
theorem dottedRun_localPart {build : List Char} (hblank : ∀ c ∈ rest, isBlank c)
    (hbuild : build = rest ∨ ∃ after, build = '+' :: after) :
    EndsRun build ∧ dottedRun? build = dottedRun? (localPart build) := by
  rcases hbuild with rfl | ⟨after, rfl⟩
  · have hnone : ∀ c ∈ build, ¬isDecimalDigit c := fun c hc => not_isDecimalDigit_of_isBlank (hblank c hc)
    have hplus : ∀ c ∈ build, c ≠ '+' := by
      rintro c hc rfl
      cases hblank _ hc
    have hlocal : localPart build = [] := by
      rw [← List.append_nil build, localPart_append hplus]
      rfl
    refine ⟨?_, by rw [hlocal, dottedRun_eq_none_of_forall hnone]; rfl⟩
    cases build with
    | nil => exact .nil
    | cons c build =>
      refine .cons (hnone c List.mem_cons_self) ?_
      rintro rfl
      cases hblank _ List.mem_cons_self
  · exact ⟨.cons (by decide +kernel) (by decide), rfl⟩

/-- The search finds the release of a version with two numbers or more. In one with a single number it finds what it
finds in the local part. -/
theorem dottedRun_of_version (h : ofText? rule s = some v) :
    (∃ first second others, AreNumbers Decimal.isDigit (first :: second :: others) ∧
      Decimal.value first = v.major ∧ dottedRun? s = some (joinPieces '.' (first :: second :: others))) ∧ v.minor ≠ [] ∨
    dottedRun? s = dottedRun? (localPart s) ∧ v.minor = [] := by
  have hsome : (ofText? rule s).isSome := by rw [h]; rfl
  have hdigits : DigitsAscii s := fun c hc => isDigit_of_isDecimalDigit hsome hc
  unfold ofText? at h
  split at h
  next version rest hread =>
    split at h
    next hrest =>
      cases h
      obtain ⟨first, others, middle, build, hlayout⟩ :=
        exists_layout (hdigits.suffix (skips_blanks s).suffix) hread
      have hskips := (skips_blanks s).trans hlayout.skips
      cases others with
      | nil =>
        obtain ⟨⟨-, hfirst⟩, -⟩ := List.forall_mem_cons.1 hlayout.numbers
        obtain ⟨digits, hdigits, hrun⟩ := hlayout.passes.run first hfirst
        obtain ⟨hends, hlocal⟩ := dottedRun_localPart (List.all_eq_true.1 hrest) hlayout.build
        refine .inr ⟨?_, hlayout.minor.symm⟩
        calc
          dottedRun? s = dottedRun? (first ++ middle) := hskips.run
          _ = dottedRun? (digits ++ build) := hrun
          _ = dottedRun? build := (Skips.number hdigits hends).run
          _ = dottedRun? (localPart build) := hlocal
          _ = dottedRun? (localPart middle) := by rw [hlayout.passes.mark]
          _ = dottedRun? (localPart (first ++ middle)) := by rw [(Skips.number hfirst hlayout.ends).mark]
          _ = dottedRun? (localPart s) := by rw [hskips.mark]; rfl
      | cons second others =>
        refine .inl ⟨⟨first, second, others, hlayout.numbers, hlayout.major, ?_⟩, ?_⟩
        · have hrun : IsRun isDecimalDigit (first :: second :: others) :=
            ⟨hlayout.numbers.mono fun _ _ _ _ => isDecimalDigit_of_isDigit, by simp⟩
          rw [hskips.run]
          exact dottedRun_of_prefix (dottedPrefix_joinPieces hrun hlayout.ends)
        · rw [← hlayout.minor]
          simp
    next => cases h
  next => cases h

end LintBridge.Version
