-- SUMMARY: The diagnostics of a lint result: one for each entry, with its range and its rule.
import LintBridge.Diagnostic
import LintBridge.Failure.Payload
import LintBridge.Proofs.Result
import Mathlib.Data.List.Forall2

/-!
# Diagnostics of a lint result

The entries of a lint result are read as failures, and these are shown as diagnostics. Neither step loses,
adds or moves an entry, and the places and the rule are those that the entry writes.
-/

namespace LintBridge

open Json

/-- A value writes a place as an editor counts it. -/
def Json.Value.Writes (v : Value) (p : Text.Position) : Prop :=
  ∃ ms, v = .object ms ∧ (member ms "line").asInt? = some (p.line : Int) ∧
    (member ms "character").asInt? = some (p.character : Int)

/-- An entry of a lint result has the range and the rule of a diagnostic. -/
def Diagnostic.Shows (entry : Value) (d : Diagnostic) : Prop :=
  ∃ ms, entry = .object ms ∧ (memberOr ms "start" "startPosition").Writes d.range.start ∧
    (memberOr ms "end" "endPosition").Writes d.range.stop ∧
    d.code = (member ms "ruleName").asText?.filter (!·.isEmpty)

theorem negativeField?_eq_none_iff {field : String} {i : Int} : negativeField? field i = none ↔ 0 ≤ i := by
  unfold negativeField?
  split
  next h => simp [Int.not_le.2 h]
  next h => simp [Int.not_lt.1 h]

theorem SourcePosition.of?_eq_ok {offset line character : Int} {p : SourcePosition}
    (h : SourcePosition.of? offset line character = .ok p) :
    line = (p.line : Int) ∧ character = (p.character : Int) := by
  simp only [SourcePosition.of?] at h
  split at h
  next hrefused =>
    cases h
    have hnone := List.filterMap_eq_nil_iff.1 (List.isEmpty_iff.1 hrefused)
    have hline : 0 ≤ line := negativeField?_eq_none_iff.1 (hnone (negativeField? "line" line) (by simp))
    have hcharacter : 0 ≤ character :=
      negativeField?_eq_none_iff.1 (hnone (negativeField? "character" character) (by simp))
    exact ⟨(Int.toNat_of_nonneg hline).symm, (Int.toNat_of_nonneg hcharacter).symm⟩
  next => cases h

theorem writes_of_parsePosition {boundary : Boundary} {v : Value} {place : SourcePosition} {p : Text.Position}
    (hplace : parsePosition boundary v = .ok place) (hp : place.inEditor = .ok p) : v.Writes p := by
  unfold parsePosition at hplace
  split at hplace
  next ms =>
    split at hplace
    next offset line character hoffset hline hcharacter =>
      have hof : SourcePosition.of? offset line character = .ok place := by
        cases hof : SourcePosition.of? offset line character with
        | error e =>
          rw [hof] at hplace
          cases hplace
        | ok place' =>
          rw [hof] at hplace
          cases hplace
          rfl
      obtain ⟨hline', hcharacter'⟩ := SourcePosition.of?_eq_ok hof
      obtain ⟨hline'', hcharacter''⟩ := Text.Position.of?_eq_ok hp
      exact ⟨ms, rfl, by rw [hline, hline', hline''], by rw [hcharacter, hcharacter', hcharacter'']⟩
    next => cases hplace
  next => cases hplace

theorem shows_of_parseFailure {source : String} {entry : Value} {failure : Failure} {d : Diagnostic}
    (hfailure : parseFailure entry = .ok failure) (hd : Diagnostic.ofFailure source failure = .ok d) :
    Diagnostic.Shows entry d := by
  cases entry with
  | object ms =>
    obtain ⟨start, hstart, hfailure⟩ := bind_eq_ok_iff.1 hfailure
    obtain ⟨stop, hstop, hfailure⟩ := bind_eq_ok_iff.1 hfailure
    obtain ⟨fix, -, hfailure⟩ := bind_eq_ok_iff.1 hfailure
    cases hfailure
    obtain ⟨p, hp, hd⟩ := bind_eq_ok_iff.1 hd
    obtain ⟨q, hq, hd⟩ := bind_eq_ok_iff.1 hd
    cases hd
    exact ⟨ms, rfl, writes_of_parsePosition hstart hp, writes_of_parsePosition hstop hq, rfl⟩
  | _ => cases hfailure

/-- Every entry has its diagnostic, in order. -/
theorem shows_of_parseFailures {source : String} {result : Value} {failures : List Failure}
    {ds : List Diagnostic} (hfailures : parseFailures result = .ok failures)
    (hds : Diagnostic.ofFailures source failures = .ok ds) :
    ∃ items, result = .list items ∧ List.Forall₂ Diagnostic.Shows items ds := by
  cases result with
  | list items =>
    refine ⟨items, rfl, ?_⟩
    change items.mapM parseFailure = .ok failures at hfailures
    change failures.mapM (Diagnostic.ofFailure source) = .ok ds at hds
    induction items generalizing failures ds with
    | nil =>
      cases hfailures
      cases hds
      exact .nil
    | cons entry items ih =>
      obtain ⟨failure, rest, hfailure, hrest, rfl⟩ := mapM_cons_eq_ok_iff.1 hfailures
      obtain ⟨d, ds', hd, hds', rfl⟩ := mapM_cons_eq_ok_iff.1 hds
      exact .cons (shows_of_parseFailure hfailure hd) (ih hrest hds')
  | _ => cases hfailures

end LintBridge
