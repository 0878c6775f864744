-- SUMMARY: A lint result is read as failures entry by entry, unless an entry reports a place before the text.
import LintBridge.Error
import LintBridge.Proofs.Diagnostic

/-!
# Lint results

A result that is no list of failures is an error of the library, with one exception: an entry that counts one
of its places below zero is refused by the place itself. Such an entry overreaches. It matters only when
everything before it can be read.
-/

namespace LintBridge

open Json

/-! ## Places -/

/-- A value gives the three numbers of a place. -/
def Json.Value.Counts (v : Value) (offset line character : Int) : Prop :=
  ∃ ms, v = .object ms ∧ (member ms "position").asInt? = some offset ∧
    (member ms "line").asInt? = some line ∧ (member ms "character").asInt? = some character

/-- A value gives a place of the text. -/
def Json.Value.IsPlace (v : Value) : Prop :=
  ∃ offset line character, v.Counts offset line character ∧ 0 ≤ offset ∧ 0 ≤ line ∧ 0 ≤ character

/-- A value gives the numbers of a place, and one of them is below zero. -/
def Json.Value.Overreaches (v : Value) : Prop :=
  ∃ offset line character, v.Counts offset line character ∧ (offset < 0 ∨ line < 0 ∨ character < 0)

/-- An error of the library: any but that of a refused place. -/
def PayloadError.OfLibrary (e : PayloadError) : Prop := ∀ report, e ≠ .positionRefused report

theorem LintError.ofPayload_of_ofLibrary {e : PayloadError} (h : e.OfLibrary) :
    ofPayload e = .bridge (.badResult e) := by
  cases e with
  | positionRefused report => exact absurd rfl (h report)
  | _ => rfl

theorem SourcePosition.of?_isOk_iff {offset line character : Int} :
    (∃ p, of? offset line character = .ok p) ↔ 0 ≤ offset ∧ 0 ≤ line ∧ 0 ≤ character := by
  simp only [of?, List.isEmpty_iff, List.filterMap_eq_nil_iff, List.forall_mem_cons, id_eq,
    negativeField?_eq_none_iff, List.not_mem_nil, false_implies, implies_true, and_true]
  split
  next h => simp [h]
  next h => simp [h]

/-- The numbers of a place are read as that place, or refused. -/
theorem parsePosition_of_counts {boundary : Boundary} {v : Value} {offset line character : Int}
    (h : v.Counts offset line character) :
    parsePosition boundary v = (SourcePosition.of? offset line character).mapError .positionRefused := by
  obtain ⟨ms, rfl, hoffset, hline, hcharacter⟩ := h
  simp only [parsePosition, hoffset, hline, hcharacter]

/-- What does not give the numbers of a place is an error of the library. -/
theorem parsePosition_of_not_counts {boundary : Boundary} {v : Value}
    (h : ∀ offset line character, ¬ v.Counts offset line character) :
    ∃ e, parsePosition boundary v = .error e ∧ e.OfLibrary := by
  unfold parsePosition
  split
  next ms =>
    split
    next hoffset hline hcharacter => exact absurd ⟨ms, rfl, hoffset, hline, hcharacter⟩ (h _ _ _)
    next => exact ⟨_, rfl, fun _ h => nomatch h⟩
  next => exact ⟨_, rfl, fun _ h => nomatch h⟩

/-- A value is read as a place, overreaches, or is an error of the library. -/
theorem parsePosition_cases (boundary : Boundary) (v : Value) :
    (v.IsPlace ∧ ¬ v.Overreaches ∧ ∃ p, parsePosition boundary v = .ok p) ∨
      (v.Overreaches ∧ ¬ v.IsPlace ∧ ∃ report, parsePosition boundary v = .error (.positionRefused report)) ∨
      (¬ v.IsPlace ∧ ¬ v.Overreaches ∧ ∃ e, parsePosition boundary v = .error e ∧ e.OfLibrary) := by
  by_cases h : ∃ offset line character, v.Counts offset line character
  · obtain ⟨offset, line, character, hcounts⟩ := h
    -- the numbers that a value gives are determined
    have hunique {o l c : Int} (h : v.Counts o l c) : o = offset ∧ l = line ∧ c = character := by
      obtain ⟨ms, rfl, ho, hl, hc⟩ := hcounts
      obtain ⟨ms', hms, ho', hl', hc'⟩ := h
      cases hms
      simp_all
    have hplace : v.IsPlace ↔ 0 ≤ offset ∧ 0 ≤ line ∧ 0 ≤ character := by
      refine ⟨?_, fun h => ⟨_, _, _, hcounts, h⟩⟩
      rintro ⟨o, l, c, h, hle⟩
      obtain ⟨rfl, rfl, rfl⟩ := hunique h
      exact hle
    have hover : v.Overreaches ↔ ¬ (0 ≤ offset ∧ 0 ≤ line ∧ 0 ≤ character) := by
      constructor
      · rintro ⟨o, l, c, h, hlt⟩
        obtain ⟨rfl, rfl, rfl⟩ := hunique h
        omega
      · exact fun h => ⟨_, _, _, hcounts, by omega⟩
    rw [parsePosition_of_counts hcounts, hplace, hover, ← SourcePosition.of?_isOk_iff]
    cases hread : SourcePosition.of? offset line character with
    | ok p => exact .inl ⟨⟨p, rfl⟩, not_not_intro ⟨p, rfl⟩, p, rfl⟩
    | error report =>
      have hno : ¬ ∃ p, (Except.error report : Except Report SourcePosition) = .ok p := fun ⟨_, h⟩ => nomatch h
      exact .inr (.inl ⟨hno, hno, report, rfl⟩)
  · have hno : ∀ offset line character, ¬ v.Counts offset line character := by
      intro offset line character hcounts
      exact h ⟨offset, line, character, hcounts⟩
    exact .inr (.inr ⟨fun ⟨_, _, _, h, _⟩ => hno _ _ _ h, fun ⟨_, _, _, h, _⟩ => hno _ _ _ h,
      parsePosition_of_not_counts hno⟩)

/-! ## Fixes -/

theorem ofLibrary_of_parseReplacement {v : Value} {e : PayloadError} (h : parseReplacement v = .error e) :
    e.OfLibrary := by
  unfold parseReplacement at h
  split at h
  next ms =>
    split at h
    next start length text _ =>
      cases hof : Replacement.of? start (start + length) (text.asText?.getD "") with
      | ok r =>
        rw [hof] at h
        cases h
      | error report =>
        rw [hof] at h
        cases h
        exact fun _ h => nomatch h
    next =>
      cases h
      exact fun _ h => nomatch h
  next =>
    cases h
    exact fun _ h => nomatch h

theorem ofLibrary_of_fixItems {v : Value} {e : PayloadError} (h : fixItems v = .error e) : e.OfLibrary := by
  unfold fixItems at h
  split at h
  next =>
    split at h
    next => cases h
    next => cases h
    next =>
      split at h
      next =>
        cases h
        exact fun _ h => nomatch h
      next => cases h
  next => cases h
  next => cases h

/-- Whatever is wrong with a fix is an error of the library. -/
theorem ofLibrary_of_parseFix {v : Value} {e : PayloadError} (h : parseFix v = .error e) : e.OfLibrary := by
  unfold parseFix at h
  split at h
  next => cases h
  next =>
    rcases bind_eq_error_iff.1 h with hitems | ⟨items, -, h⟩
    · exact ofLibrary_of_fixItems hitems
    · rcases bind_eq_error_iff.1 h with hreplacements | ⟨replacements, -, h⟩
      · obtain ⟨_, item, _, -, -, hitem⟩ := mapM_eq_error_iff.1 hreplacements
        exact ofLibrary_of_parseReplacement hitem
      · cases h

/-! ## Entries and results -/

/-- An entry overreaches when its first place does, or when its first place is one of the text and its
second place overreaches. -/
def Json.Value.EntryOverreaches (entry : Value) : Prop :=
  ∃ ms, entry = .object ms ∧ ((memberOr ms "start" "startPosition").Overreaches ∨
    (memberOr ms "start" "startPosition").IsPlace ∧ (memberOr ms "end" "endPosition").Overreaches)

/-- A result overreaches when its first entry that is no failure does. -/
def Json.Value.ResultOverreaches (result : Value) : Prop :=
  ∃ before entry after, result = .list (before ++ entry :: after) ∧
    (∀ e ∈ before, ∃ failure, parseFailure e = .ok failure) ∧ entry.EntryOverreaches

/-- A failure is refused by one of its places exactly when its entry overreaches. -/
theorem parseFailure_refused_iff {entry : Value} :
    (∃ report, parseFailure entry = .error (.positionRefused report)) ↔ entry.EntryOverreaches := by
  cases entry with
  | object ms =>
    simp only [Value.EntryOverreaches, Value.object.injEq, exists_eq_left', parseFailure]
    rcases parsePosition_cases .start (memberOr ms "start" "startPosition") with
      ⟨hplace, hnot, start, hstart⟩ | ⟨hover, -, report, hstart⟩ | ⟨hplace, hnot, e, hstart, he⟩
    · simp only [hstart, hplace, hnot, false_or, true_and]
      rcases parsePosition_cases .stop (memberOr ms "end" "endPosition") with
        ⟨-, hnot, stop, hstop⟩ | ⟨hover, -, report, hstop⟩ | ⟨-, hnot, e, hstop, he⟩
      · simp only [hnot, iff_false]
        rintro ⟨report, h⟩
        simp only [hstop, bind_eq_error_iff, reduceCtorEq, false_or, Except.ok.injEq, exists_eq_left'] at h
        rcases h with hfix | ⟨fix, -, h⟩
        · exact ofLibrary_of_parseFix hfix report rfl
        · cases h
      · exact iff_of_true ⟨report, by rw [hstop]; rfl⟩ hover
      · simp only [hnot, iff_false]
        rintro ⟨report, h⟩
        rw [hstop] at h
        cases h
        exact he report rfl
    · exact iff_of_true ⟨report, by rw [hstart]; rfl⟩ (.inl hover)
    · simp only [hplace, hnot, false_or, false_and, iff_false]
      rintro ⟨report, h⟩
      rw [hstart] at h
      cases h
      exact he report rfl
  | _ =>
    refine iff_of_false ?_ ?_
    · rintro ⟨report, h⟩
      cases h
    · rintro ⟨ms, h, -⟩
      cases h

/-- A result is refused by a place exactly when it overreaches. -/
theorem parseFailures_refused_iff {result : Value} :
    (∃ report, parseFailures result = .error (.positionRefused report)) ↔ result.ResultOverreaches := by
  constructor
  · rintro ⟨report, h⟩
    cases result with
    | list items =>
      obtain ⟨before, entry, after, hitems, hbefore, hentry⟩ := mapM_eq_error_iff.1 h
      subst hitems
      exact ⟨before, entry, after, rfl, hbefore, parseFailure_refused_iff.1 ⟨report, hentry⟩⟩
    | _ => cases h
  · rintro ⟨before, entry, after, rfl, hbefore, hentry⟩
    obtain ⟨report, h⟩ := parseFailure_refused_iff.2 hentry
    exact ⟨report, mapM_eq_error_iff.2 ⟨before, entry, after, rfl, hbefore, h⟩⟩

/-- A result that is read has one failure for each of its entries, in order. -/
theorem parseFailures_eq_ok_iff {result : Value} {failures : List Failure} :
    parseFailures result = .ok failures ↔
      ∃ items, result = .list items ∧
        List.Forall₂ (fun entry failure => parseFailure entry = .ok failure) items failures := by
  cases result with
  | list items =>
    simp only [Value.list.injEq, exists_eq_left']
    exact mapM_eq_ok_iff
  | _ =>
    refine iff_of_false ?_ ?_
    · intro h
      cases h
    · rintro ⟨items, h, -⟩
      cases h

end LintBridge
