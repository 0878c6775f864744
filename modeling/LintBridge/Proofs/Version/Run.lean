-- SUMMARY: Which dotted run is found in a text, and that a dotted run of ASCII digits is a version.
import LintBridge.Proofs.Text.Digit
import LintBridge.Proofs.Text.Trim
import LintBridge.Proofs.Version.Basic

/-!
# Dotted runs

The search for a version in a text finds the first dotted run, as long as it goes. What blanks stand around the
text does not matter. A dotted run of ASCII digits is a version with these numbers as its release.
-/

namespace LintBridge.Version

open Text

variable {rule : CaseRule} {s rest run : List Char} {numbers : List (List Char)}

/-! ## The run at the beginning of a text -/

/-- Each number has digits, and nothing else. -/
def AreNumbers (digit : Char → Bool) (numbers : List (List Char)) : Prop :=
  ∀ number ∈ numbers, number ≠ [] ∧ ∀ c ∈ number, digit c

/-- A character that a dotted run is made of. -/
def isRunChar (c : Char) : Bool := isDecimalDigit c || c == '.'

theorem stops_of_stops_run (h : Stops isRunChar rest) : Stops isDecimalDigit rest :=
  fun c hc hdigit => h c hc (by rw [isRunChar, hdigit, Bool.true_or])

/-- A text does not go on with digits, nor with a point and digits. -/
structure EndsRun (rest : List Char) : Prop where
  digit : Stops isDecimalDigit rest
  point : ∀ after, rest = '.' :: after → Stops isDecimalDigit after

theorem EndsRun.nil : EndsRun [] := ⟨stops_nil, fun _ h => nomatch h⟩

theorem EndsRun.cons {c : Char} {after : List Char} (hdigit : ¬isDecimalDigit c) (hpoint : c ≠ '.') :
    EndsRun (c :: after) := by
  refine ⟨stops_cons hdigit, ?_⟩
  rintro after' h
  exact absurd (List.cons.inj h).1 hpoint

theorem stops_flatMap {p : Char → Bool} (hpoint : ¬p '.') (numbers : List (List Char)) (h : Stops p rest) :
    Stops p (numbers.flatMap ('.' :: ·) ++ rest) := by
  cases numbers with
  | nil => exact h
  | cons number numbers => exact stops_cons hpoint

theorem not_isDecimalDigit_point : ¬isDecimalDigit '.' := by decide +kernel

theorem dottedTail_of_endsRun (h : EndsRun rest) (fuel : Nat) : dottedTail fuel rest = [] := by
  fun_cases dottedTail fuel rest with
  | case1 => rfl
  | case2 fuel rest digits hdigits =>
    have hstop := takeWhile_of_stops (h.point rest rfl)
    exact absurd (List.isEmpty_iff.2 hstop) hdigits
  | case3 => rfl

theorem dottedTail_flatMap (hnumbers : AreNumbers isDecimalDigit numbers) (hrest : EndsRun rest) {fuel : Nat}
    (hfuel : numbers.length ≤ fuel) :
    dottedTail fuel (numbers.flatMap ('.' :: ·) ++ rest) = numbers.flatMap ('.' :: ·) := by
  induction numbers generalizing fuel with
  | nil => exact dottedTail_of_endsRun hrest fuel
  | cons number numbers ih =>
    obtain ⟨fuel, rfl⟩ : ∃ k, fuel = k + 1 := ⟨fuel - 1, by simp at hfuel; omega⟩
    obtain ⟨⟨hne, hdigits⟩, hnumbers⟩ := List.forall_mem_cons.1 hnumbers
    have hstops := stops_flatMap not_isDecimalDigit_point numbers hrest.digit
    have ih := ih hnumbers (Nat.le_of_succ_le_succ hfuel)
    rw [List.flatMap_cons, List.cons_append, List.cons_append, List.append_assoc, dottedTail]
    simp only [takeWhile_append_of_stops hdigits hstops, dropWhile_append_of_stops hdigits hstops, ih,
      List.isEmpty_iff, hne, if_false]

/-- The tail of a run goes as far as it can. -/
theorem dottedTail_eq_flatMap {fuel : Nat} (hs : Stops isDecimalDigit s) (hfuel : s.length ≤ fuel) :
    ∃ numbers rest, AreNumbers isDecimalDigit numbers ∧ EndsRun rest ∧
      s = numbers.flatMap ('.' :: ·) ++ rest ∧ dottedTail fuel s = numbers.flatMap ('.' :: ·) := by
  -- the fuel bounds the length of what is left, so the run never stops for want of it
  fun_induction dottedTail fuel s with
  | case1 fuel rest digits hdigits =>
    refine ⟨[], '.' :: rest, by simp [AreNumbers], ⟨hs, ?_⟩, rfl, rfl⟩
    rintro after ⟨⟩
    exact stops_of_takeWhile (List.isEmpty_iff.1 hdigits)
  | case2 fuel rest digits hdigits ih =>
    have hlength : (rest.dropWhile isDecimalDigit).length ≤ fuel :=
      Nat.le_trans (List.length_dropWhile_le _ _) (Nat.le_of_succ_le_succ hfuel)
    obtain ⟨numbers, rest', hnumbers, hends, hrest, htail⟩ := ih (stops_dropWhile _ _) hlength
    have hnumber : digits ≠ [] ∧ ∀ c ∈ digits, isDecimalDigit c :=
      ⟨fun h => hdigits (List.isEmpty_iff.2 h), fun c hc => List.mem_takeWhile_imp hc⟩
    refine ⟨digits :: numbers, rest', List.forall_mem_cons.2 ⟨hnumber, hnumbers⟩, hends, ?_, ?_⟩
    · rw [List.flatMap_cons, List.append_assoc, ← hrest, List.cons_append, List.takeWhile_append_dropWhile]
    · rw [htail, List.flatMap_cons, List.cons_append]
  | case3 fuel s hend =>
    refine ⟨[], s, by simp [AreNumbers], ⟨hs, ?_⟩, rfl, rfl⟩
    rintro after rfl
    cases fuel with
    | zero => cases hfuel
    | succ fuel => exact absurd rfl (hend fuel after rfl)

/-- What begins neither with a digit nor with a point does not continue a run. -/
theorem EndsRun.append {tail : List Char} (h : EndsRun rest) (htail : Stops isRunChar tail) :
    EndsRun (rest ++ tail) := by
  have hdigit := stops_of_stops_run htail
  cases rest with
  | nil =>
    refine ⟨hdigit, ?_⟩
    rintro after rfl
    exact absurd rfl (htail '.' rfl)
  | cons c rest =>
    refine ⟨h.digit.append hdigit, ?_⟩
    rintro after heq
    obtain ⟨rfl, rfl⟩ := List.cons.inj heq
    exact (h.point rest rfl).append hdigit

theorem length_le_flatMap (numbers : List (List Char)) :
    numbers.length ≤ (numbers.flatMap ('.' :: ·)).length := by
  induction numbers with
  | nil => exact Nat.le_refl _
  | cons number numbers ih =>
    simp only [List.flatMap_cons, List.length_append, List.length_cons]
    omega

/-- The numbers of a dotted run: two or more. -/
structure IsRun (digit : Char → Bool) (numbers : List (List Char)) : Prop where
  areNumbers : AreNumbers digit numbers
  two : 2 ≤ numbers.length

/-- Points with numbers are no longer than a text that they stand in, which is the fuel for them. -/
theorem length_le_around (numbers : List (List Char)) (before after : List Char) :
    numbers.length ≤ (before ++ (numbers.flatMap ('.' :: ·) ++ after)).length := by
  have hnumbers := length_le_flatMap numbers
  simp only [List.length_append]
  omega

/-- Digits with a tail behind them are found together. -/
theorem dottedPrefix_append_tail {digits : List Char} (hne : digits ≠ []) (hdigits : ∀ c ∈ digits, isDecimalDigit c)
    (hrest : Stops isDecimalDigit rest) (htail : dottedTail (digits ++ rest).length rest ≠ []) :
    dottedPrefix? (digits ++ rest) = some (digits ++ dottedTail (digits ++ rest).length rest) := by
  simp only [dottedPrefix?, takeWhile_append_of_stops hdigits hrest, dropWhile_append_of_stops hdigits hrest]
  rw [if_neg]
  simp only [Bool.or_eq_true, List.isEmpty_iff, not_or]
  exact ⟨hne, htail⟩

theorem dottedPrefix_joinPieces (h : IsRun isDecimalDigit numbers) (hrest : EndsRun rest) :
    dottedPrefix? (joinPieces '.' numbers ++ rest) = some (joinPieces '.' numbers) := by
  match numbers, h.two with
  | first :: second :: numbers, _ =>
    obtain ⟨⟨hne, hdigits⟩, hnumbers⟩ := List.forall_mem_cons.1 h.areNumbers
    have hstops := stops_flatMap not_isDecimalDigit_point (second :: numbers) hrest.digit
    have htail := dottedTail_flatMap hnumbers hrest (length_le_around (second :: numbers) first rest)
    rw [joinPieces_eq_flatMap, List.append_assoc, dottedPrefix_append_tail hne hdigits hstops, htail]
    rw [htail]
    exact List.cons_ne_nil _ _

theorem dottedPrefix_eq_some (h : dottedPrefix? s = some run) :
    ∃ numbers rest, IsRun isDecimalDigit numbers ∧ EndsRun rest ∧ run = joinPieces '.' numbers ∧
      s = run ++ rest := by
  obtain ⟨numbers, rest, hnumbers, hends, hrest, htail⟩ :=
    dottedTail_eq_flatMap (stops_dropWhile isDecimalDigit s) (List.length_dropWhile_le _ _)
  unfold dottedPrefix? at h
  rw [htail] at h
  simp only [Bool.or_eq_true, List.isEmpty_iff, Option.ite_none_left_eq_some, not_or, Option.some.injEq] at h
  obtain ⟨⟨hfirst, hothers⟩, rfl⟩ := h
  have hdigits : ∀ c ∈ s.takeWhile isDecimalDigit, isDecimalDigit c := fun c hc => List.mem_takeWhile_imp hc
  have htwo : 2 ≤ (s.takeWhile isDecimalDigit :: numbers).length := by
    cases numbers with
    | nil => exact absurd rfl hothers
    | cons _ _ => simp
  refine ⟨_, rest, ⟨List.forall_mem_cons.2 ⟨⟨hfirst, hdigits⟩, hnumbers⟩, htwo⟩, hends,
    (joinPieces_eq_flatMap ..).symm, ?_⟩
  rw [List.append_assoc, ← hrest, List.takeWhile_append_dropWhile]

/-- The run at the beginning of a text is its longest one. -/
theorem dottedPrefix_eq_some_iff :
    dottedPrefix? s = some run ↔
      ∃ numbers rest, IsRun isDecimalDigit numbers ∧ EndsRun rest ∧ run = joinPieces '.' numbers ∧
        s = run ++ rest := by
  refine ⟨dottedPrefix_eq_some, ?_⟩
  rintro ⟨numbers, rest, hrun, hends, rfl, rfl⟩
  exact dottedPrefix_joinPieces hrun hends

/-- What begins neither with a digit nor with a point does not change the run at the beginning of a text. -/
theorem dottedPrefix_append {tail : List Char} (htail : Stops isRunChar tail) :
    dottedPrefix? (s ++ tail) = dottedPrefix? s := by
  obtain ⟨numbers, rest, hnumbers, hends, hrest, hrun⟩ :=
    dottedTail_eq_flatMap (stops_dropWhile isDecimalDigit s) (List.length_dropWhile_le _ _)
  have hfuel : numbers.length ≤ (s ++ tail).length := by
    have hdropped := List.length_dropWhile_le isDecimalDigit s
    rw [hrest, List.length_append] at hdropped
    have hlength := length_le_flatMap numbers
    rw [List.length_append]
    omega
  have hrun' : dottedTail (s ++ tail).length (s.dropWhile isDecimalDigit ++ tail) =
      numbers.flatMap ('.' :: ·) := by
    rw [hrest, List.append_assoc]
    exact dottedTail_flatMap hnumbers (hends.append htail) hfuel
  have hdigit := stops_of_stops_run htail
  rw [dottedPrefix?, dottedPrefix?, takeWhile_append_stops s hdigit, dropWhile_append_stops s hdigit, hrun, hrun']

/-! ## The first run in a text -/

theorem dottedRun_of_prefix (h : dottedPrefix? s = some run) : dottedRun? s = some run := by
  cases s with
  | nil => cases h
  | cons c rest => rw [dottedRun?, h]

theorem dottedPrefix_of_stops (h : Stops isDecimalDigit s) : dottedPrefix? s = none := by
  simp [dottedPrefix?, takeWhile_of_stops h]

/-- The run is searched for behind what holds no digits. -/
theorem dottedRun_append_left {before : List Char} (h : ∀ c ∈ before, ¬isDecimalDigit c) (s : List Char) :
    dottedRun? (before ++ s) = dottedRun? s := by
  induction before with
  | nil => rfl
  | cons c before ih =>
    rw [List.forall_mem_cons] at h
    rw [List.cons_append, dottedRun?, dottedPrefix_of_stops (stops_cons h.1), ih h.2]

/-- The first run of a text is that of its first part, if it has one and the second does not continue it. -/
theorem dottedRun_append {tail : List Char} (htail : Stops isRunChar tail) (s : List Char) :
    dottedRun? (s ++ tail) = (dottedRun? s).or (dottedRun? tail) := by
  induction s with
  | nil => rfl
  | cons c s ih =>
    have hprefix := dottedPrefix_append (s := c :: s) htail
    rw [List.cons_append] at hprefix ⊢
    rw [dottedRun?, dottedRun?, hprefix, ih]
    cases dottedPrefix? (c :: s) <;> rfl

theorem dottedRun_eq_none_of_forall (h : ∀ c ∈ s, ¬isDecimalDigit c) : dottedRun? s = none := by
  rw [← List.append_nil s, dottedRun_append_left h]
  rfl

/-- One number alone is no run, so the search goes on behind it. -/
theorem dottedRun_append_number {digits : List Char} (hdigits : ∀ c ∈ digits, isDecimalDigit c) (hs : EndsRun s) :
    dottedRun? (digits ++ s) = dottedRun? s := by
  induction digits with
  | nil => rfl
  | cons c digits ih =>
    have hnone : dottedPrefix? (c :: digits ++ s) = none := by
      simp only [dottedPrefix?, dropWhile_append_of_stops hdigits hs.digit, dottedTail_of_endsRun hs,
        List.isEmpty_nil, Bool.or_true, if_true]
    rw [List.forall_mem_cons] at hdigits
    rw [List.cons_append] at hnone ⊢
    rw [dottedRun?, hnone]
    exact ih hdigits.2

/-- The first run of a text is a part of it that goes as far as it can. -/
theorem dottedRun_eq_some (h : dottedRun? s = some run) :
    ∃ before numbers rest, IsRun isDecimalDigit numbers ∧ EndsRun rest ∧ run = joinPieces '.' numbers ∧
      s = before ++ (run ++ rest) := by
  induction s with
  | nil => cases h
  | cons c s ih =>
    rw [dottedRun?] at h
    split at h
    next run' hbegins =>
      cases h
      obtain ⟨numbers, rest, hrun, hends, hjoined, hsplit⟩ := dottedPrefix_eq_some_iff.1 hbegins
      exact ⟨[], numbers, rest, hrun, hends, hjoined, hsplit⟩
    next =>
      obtain ⟨before, numbers, rest, hrun, hends, hjoined, hsplit⟩ := ih h
      exact ⟨c :: before, numbers, rest, hrun, hends, hjoined, congrArg (c :: ·) hsplit⟩

theorem not_isRunChar_of_isBlank {c : Char} (h : isBlank c) : ¬isRunChar c := by
  rw [isRunChar, Bool.or_eq_true, beq_iff_eq, not_or]
  refine ⟨not_isDecimalDigit_of_isBlank h, ?_⟩
  rintro rfl
  cases h

/-- Blanks around a text do not change which part of it is to be read as a version. -/
theorem candidate_trim (s : List Char) : candidate (trim isBlank s) = candidate s := by
  obtain ⟨before, after, hs, hbefore, hafter⟩ := exists_eq_append_trim isBlank s
  have hrun : dottedRun? s = dottedRun? (trim isBlank s) := by
    have hstops : Stops isRunChar after := stops_of_forall_not fun c hc => not_isRunChar_of_isBlank (hafter c hc)
    have hnone : dottedRun? after = none :=
      dottedRun_eq_none_of_forall fun c hc => not_isDecimalDigit_of_isBlank (hafter c hc)
    rw [congrArg dottedRun? hs, dottedRun_append_left fun c hc => not_isDecimalDigit_of_isBlank (hbefore c hc),
      dottedRun_append hstops, hnone, Option.or_none]
  rw [candidate, candidate, hrun, trim_trim]

/-! ## Runs of ASCII digits -/

theorem AreNumbers.mono {digit digit' : Char → Bool} (h : AreNumbers digit numbers)
    (himp : ∀ number ∈ numbers, ∀ c ∈ number, digit c → digit' c) : AreNumbers digit' numbers :=
  fun number hnumber => ⟨(h number hnumber).1, fun c hc => himp number hnumber c hc ((h number hnumber).2 c hc)⟩

theorem decimal_read_append {number : List Char} (hne : number ≠ []) (hdigits : ∀ c ∈ number, Decimal.isDigit c)
    (hrest : Stops Decimal.isDigit rest) : Decimal.read? (number ++ rest) = some (Decimal.value number, rest) := by
  simp [Decimal.read?, takeWhile_append_of_stops hdigits hrest, dropWhile_append_of_stops hdigits hrest, hne]

theorem stops_flatMap_digit (numbers : List (List Char)) :
    Stops Decimal.isDigit (numbers.flatMap ('.' :: ·)) := by
  rw [← List.append_nil (numbers.flatMap _)]
  exact stops_flatMap (by decide) numbers stops_nil

theorem readMinor_flatMap (h : AreNumbers Decimal.isDigit numbers) {fuel : Nat} (hfuel : numbers.length ≤ fuel) :
    readMinor fuel (numbers.flatMap ('.' :: ·)) = (numbers.map Decimal.value, []) := by
  induction numbers generalizing fuel with
  | nil => cases fuel <;> rfl
  | cons number numbers ih =>
    obtain ⟨fuel, rfl⟩ : ∃ k, fuel = k + 1 := ⟨fuel - 1, by simp at hfuel; omega⟩
    obtain ⟨⟨hne, hdigits⟩, hnumbers⟩ := List.forall_mem_cons.1 h
    rw [List.flatMap_cons, List.cons_append, readMinor, decimal_read_append hne hdigits (stops_flatMap_digit numbers)]
    simp [ih hnumbers (Nat.le_of_succ_le_succ hfuel)]

/-- The version of a release alone. -/
def release (first : List Char) (others : List (List Char)) : Version where
  epoch := 0
  major := Decimal.value first
  minor := others.map Decimal.value
  pre := none
  post := none
  dev := none
  build := []

/-- A character counts as its small letter, unless it is one of the cases beyond ASCII. -/
theorem foldCase_cases (rule : CaseRule) (c : Char) :
    foldCase rule c = c.toLower ∨ c ∈ otherCases.map Prod.fst := by
  cases rule with
  | ascii => exact .inl rfl
  | unicode =>
    rw [foldCase]
    cases h : otherCases.lookup c with
    | none => exact .inl rfl
    | some w =>
      obtain ⟨before, after, heq, -⟩ := List.lookup_eq_some_iff.1 h
      exact .inr (List.mem_map.2 ⟨(c, w), by simp [heq], rfl⟩)

theorem foldCase_of_lt {c : Char} (h : c.toNat < 65) : foldCase rule c = c := by
  rcases foldCase_cases rule c with hc | hc
  · rw [hc, toLower_of_not_upper (.inl h)]
  · simp only [otherCases, List.map_cons, List.map_nil, List.mem_cons, List.not_mem_nil, or_false] at hc
    rcases hc with rfl | rfl | rfl | rfl <;> exact absurd h (by decide)

theorem dropWord_of_digit {c w : Char} {word tail : List Char} (hc : Decimal.isDigit c) (hw : ¬Decimal.isDigit w) :
    dropWord? rule (w :: word) (c :: tail) = none := by
  have hbounds := isDigit_iff.1 hc
  rw [dropWord?, foldCase_of_lt (by omega), if_neg]
  rintro rfl
  exact hw hc

/-- A dotted run of ASCII digits is a version. -/
theorem ofText?_joinPieces {first : List Char} {others : List (List Char)}
    (h : AreNumbers Decimal.isDigit (first :: others)) :
    ofText? rule (joinPieces '.' (first :: others)) = some (release first others) := by
  obtain ⟨⟨hne, hdigits⟩, hothers⟩ := List.forall_mem_cons.1 h
  have hfirst : Decimal.read? (first ++ others.flatMap ('.' :: ·)) =
      some (Decimal.value first, others.flatMap ('.' :: ·)) :=
    decimal_read_append hne hdigits (stops_flatMap_digit others)
  -- a point or nothing follows the first number, so it is no epoch
  have hepoch : readEpoch? (first ++ others.flatMap ('.' :: ·)) = none := by
    rw [readEpoch?, hfirst]
    cases others <;> rfl
  have hminor : readMinor (others.flatMap ('.' :: ·)).length (others.flatMap ('.' :: ·)) =
      (others.map Decimal.value, []) := readMinor_flatMap hothers (length_le_flatMap others)
  obtain ⟨c, digits, rfl⟩ := List.exists_cons_of_ne_nil hne
  have hc := hdigits c List.mem_cons_self
  have hblank : Stops isBlank ((c :: digits) ++ others.flatMap ('.' :: ·)) := stops_cons (not_isBlank_of_isDigit hc)
  have hword : dropWord? rule ['v'] ((c :: digits) ++ others.flatMap ('.' :: ·)) = none :=
    dropWord_of_digit hc (by decide)
  have hread : read? rule ((c :: digits) ++ others.flatMap ('.' :: ·)) = some (release (c :: digits) others, []) := by
    simp only [read?, hword, hepoch, hfirst, hminor, Option.getD_none, Option.bind_eq_bind, Option.bind_some]
    rfl
  rw [joinPieces_eq_flatMap, ofText?, dropWhile_of_stops hblank, hread]
  rfl

theorem AreNumbers.eq_point_or_isDigit (h : AreNumbers Decimal.isDigit numbers) {c : Char}
    (hc : c ∈ joinPieces '.' numbers) : c = '.' ∨ Decimal.isDigit c := by
  rcases eq_or_mem_of_mem_joinPieces hc with rfl | ⟨number, hnumber, hc⟩
  · exact .inl rfl
  · exact .inr ((h number hnumber).2 c hc)

/-- The numbers of a run are those between its points. -/
theorem numbers_joinPieces (h : AreNumbers Decimal.isDigit numbers) (hne : numbers ≠ []) :
    Version.numbers rule (joinPieces '.' numbers) = numbers ++ [[]] := by
  have hplus : ∀ c ∈ joinPieces '.' numbers, c ≠ '+' := by
    rintro c hc rfl
    rcases h.eq_point_or_isDigit hc with heq | hdigit
    · cases heq
    · cases hdigit
  have htake : (joinPieces '.' numbers).takeWhile (· ≠ '+') = joinPieces '.' numbers :=
    List.takeWhile_eq_self_iff.2 fun c hc => by simpa using hplus c hc
  have hdrop : (joinPieces '.' numbers).dropWhile (· ≠ '+') = [] :=
    List.dropWhile_eq_nil_iff.2 fun c hc => by simpa using hplus c hc
  have hkept : (joinPieces '.' numbers).map (fun c => if Decimal.isDigit c then c else ' ') =
      joinPieces ' ' numbers := by
    rw [map_joinPieces]
    refine congrArg (joinPieces ' ') ((List.map_congr_left fun number hnumber => ?_).trans (List.map_id _))
    refine (List.map_congr_left fun c hc => ?_).trans (List.map_id _)
    rw [if_pos ((h number hnumber).2 c hc), id]
  have hblank : ∀ number ∈ numbers, ' ' ∉ number := fun number hnumber hmem =>
    absurd ((h number hnumber).2 _ hmem) (by decide)
  simp only [Version.numbers, htake, hdrop, hkept, pieces_joinPieces hne hblank]
  rfl

theorem checkLengths_append_nil (numbers : List (List Char)) :
    Decimal.checkLengths (numbers ++ [[]]) = Decimal.checkLengths numbers := by
  induction numbers with
  | nil => rfl
  | cons number numbers ih => rw [List.cons_append, checkLengths_cons, checkLengths_cons, ih]

/-- A run is refused for the first number of too many digits. -/
theorem ofText_joinPieces {first : List Char} {others : List (List Char)}
    (h : AreNumbers Decimal.isDigit (first :: others)) :
    ofText rule (joinPieces '.' (first :: others)) =
      (Decimal.checkLengths (first :: others)).map fun _ => some (release first others) := by
  rw [ofText, ofText?_joinPieces h, numbers_joinPieces h (List.cons_ne_nil _ _), checkLengths_append_nil]

end LintBridge.Version
