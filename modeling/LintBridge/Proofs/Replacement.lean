-- SUMMARY: The replacements of a fix are read alike from every spelling and every shape that writes them.
import LintBridge.Proofs.Binary64
import LintBridge.Proofs.Failure

/-!
# Spellings of a fix

A replacement is written in one of three spellings, its numbers with a point or without, and a fix is written
in one of three shapes. Reading gives the same replacements for all of them. Whatever else a value is, it is
read as replacements that it delimits, or it is an error of the library.
-/

namespace LintBridge

open Json

/-! ## Numbers and members -/

/-- A value writes an integer, as such or as a number with a point that equals it. -/
def Json.Value.IsNumber (v : Value) (i : Int) : Prop :=
  v = .int i ∨ ∃ x, v = .float x ∧ x.rational? = some (i : ℚ)

theorem asInt?_eq_some_iff {v : Value} {i : Int} : v.asInt? = some i ↔ v.IsNumber i := by
  cases v with
  | int j => simp [Value.asInt?, Value.IsNumber]
  | float x => simp [Value.asInt?, Value.IsNumber, Binary64.toInt?_eq_some_iff]
  | _ => simp [Value.asInt?, Value.IsNumber]

/-- An object has a member that writes an integer. -/
def Json.Gives (ms : Members) (key : String) (i : Int) : Prop := ∃ v, member? ms key = some v ∧ v.IsNumber i

theorem asInt?_member_eq_some_iff {ms : Members} {key : String} {i : Int} :
    (member ms key).asInt? = some i ↔ Gives ms key i := by
  rw [asInt?_eq_some_iff, member, Gives]
  cases member? ms key with
  | none => simp [Value.IsNumber]
  | some v => simp

/-! ## Spellings of a replacement -/

/-- How a replacement is written: with its inner fields, with its two ends, or with its start and length. -/
inductive Spelling where
  | inner | ends | measured
  deriving DecidableEq, Repr

def Spelling.textKey : Spelling → String
  | .inner => "innerText"
  | _ => "text"

/-- An object gives the ends of a replacement in a spelling. An inner start goes before the other spellings,
whatever its value is, and an end that is a number goes before a length. -/
inductive Json.Spells (ms : Members) (start stop : Int) : Spelling → Prop
  | inner : Gives ms "innerStart" start → Gives ms "innerLength" (stop - start) → Spells ms start stop .inner
  | ends : member? ms "innerStart" = none → Gives ms "start" start → Gives ms "end" stop →
      Spells ms start stop .ends
  | measured : member? ms "innerStart" = none → (∀ i, ¬ Gives ms "end" i) → Gives ms "start" start →
      Gives ms "length" (stop - start) → Spells ms start stop .measured

/-- Without an inner start the members give an end or a length, and the end goes first. -/
theorem plainLength_eq_some_iff {ms : Members} {start length : Int} :
    (match some start, (member ms "end").asInt? with
      | some start, some stop => some (stop - start)
      | _, _ => (member ms "length").asInt?) = some length ↔
      Gives ms "end" (start + length) ∨ (∀ i, ¬ Gives ms "end" i) ∧ Gives ms "length" length := by
  simp only [← asInt?_member_eq_some_iff]
  cases (member ms "end").asInt? with
  | none => simp
  | some stop => grind

theorem replacementSpan_eq_iff {ms : Members} {start length : Int} {text : Value} :
    replacementSpan ms = (some start, some length, text) ↔
      ∃ spelling, Spells ms start (start + length) spelling ∧ text = member ms spelling.textKey := by
  have hlength : start + length - start = length := by omega
  by_cases hinner : (member? ms "innerStart").isSome
  · simp only [replacementSpan, hinner, if_true, Prod.mk.injEq, asInt?_member_eq_some_iff]
    constructor
    · rintro ⟨hstart, hlen, rfl⟩
      exact ⟨.inner, .inner hstart (hlength.symm ▸ hlen), rfl⟩
    · rintro ⟨spelling, h, rfl⟩
      cases h with
      | inner hstart hlen => exact ⟨hstart, hlength ▸ hlen, rfl⟩
      | ends hnone => simp [hnone] at hinner
      | measured hnone => simp [hnone] at hinner
  · have hnone : member? ms "innerStart" = none := Option.not_isSome_iff_eq_none.1 hinner
    simp only [replacementSpan, hinner, Bool.false_eq_true, if_false, Prod.mk.injEq]
    constructor
    · rintro ⟨hstart, hlen, rfl⟩
      rw [hstart] at hlen
      have hstart := asInt?_member_eq_some_iff.1 hstart
      rcases plainLength_eq_some_iff.1 hlen with hend | ⟨hend, hlen⟩
      · exact ⟨.ends, .ends hnone hstart hend, rfl⟩
      · exact ⟨.measured, .measured hnone hend hstart (hlength.symm ▸ hlen), rfl⟩
    · rintro ⟨spelling, h, rfl⟩
      cases h with
      | inner hstart _ =>
        obtain ⟨v, hv, -⟩ := hstart
        simp [hv] at hinner
      | ends _ hstart hend =>
        have hstart := asInt?_member_eq_some_iff.2 hstart
        exact ⟨hstart, hstart ▸ plainLength_eq_some_iff.2 (.inl hend), rfl⟩
      | measured _ hend hstart hlen =>
        have hstart := asInt?_member_eq_some_iff.2 hstart
        exact ⟨hstart, hstart ▸ plainLength_eq_some_iff.2 (.inr ⟨hend, hlength ▸ hlen⟩), rfl⟩

/-- The span of a replacement is accepted when its ends are in order from the beginning of a text on. -/
theorem Replacement.of?_eq_ok_iff {start stop : Int} {text : Text.Codes} {r : Replacement} :
    Replacement.of? start stop text = .ok r ↔ start = r.start ∧ stop = r.stop ∧ text = r.text := by
  simp only [Replacement.of?]
  obtain ⟨rstart, rstop, rtext, hr⟩ := r
  split
  next h =>
    split
    next ho =>
      have hstart : start.toNat = rstart ↔ start = rstart := by omega
      have hstop : stop.toNat = rstop ↔ stop = rstop := by omega
      rw [Except.ok.injEq, Replacement.mk.injEq, hstart, hstop]
    next ho =>
      refine iff_of_false (fun h => nomatch h) ?_
      rintro ⟨rfl, rfl, -⟩
      simp only at ho
      omega
  next h =>
    refine iff_of_false (fun h => nomatch h) ?_
    rintro ⟨rfl, rfl, -⟩
    simp only at h
    omega

/-- An item of a fix writes a replacement. -/
def Replacement.IsWrittenBy (r : Replacement) (item : Value) : Prop :=
  ∃ ms spelling, item = .object ms ∧ Spells ms r.start r.stop spelling ∧
    r.text = ((member ms spelling.textKey).asText?).getD ""

/-- An item spells a replacement out: it writes its ends, and its text as a string. -/
def Replacement.IsSpeltBy (r : Replacement) (item : Value) : Prop :=
  ∃ ms spelling, item = .object ms ∧ Spells ms r.start r.stop spelling ∧
    member? ms spelling.textKey = some (.text r.text)

theorem Replacement.IsSpeltBy.isWrittenBy {r : Replacement} {item : Value} (h : r.IsSpeltBy item) :
    r.IsWrittenBy item := by
  obtain ⟨ms, spelling, rfl, hspells, htext⟩ := h
  refine ⟨ms, spelling, rfl, hspells, ?_⟩
  rw [member, htext]
  rfl

/-- A value is read as a replacement exactly when it writes it. -/
theorem parseReplacement_eq_ok_iff {item : Value} {r : Replacement} :
    parseReplacement item = .ok r ↔ r.IsWrittenBy item := by
  constructor
  · intro h
    unfold parseReplacement at h
    split at h
    next ms =>
      split at h
      next start length text hspan =>
        obtain ⟨rfl, hstop, htext⟩ := Replacement.of?_eq_ok_iff.1 (mapError_eq_ok_iff.1 h)
        obtain ⟨spelling, hspells, rfl⟩ := replacementSpan_eq_iff.1 hspan
        exact ⟨ms, spelling, rfl, hstop ▸ hspells, htext.symm⟩
      next => cases h
    next => cases h
  · rintro ⟨ms, spelling, rfl, hspells, htext⟩
    have hstop : (r.start : Int) + (r.stop - r.start) = r.stop := by omega
    have hspan := replacementSpan_eq_iff.2 ⟨spelling, hstop.symm ▸ hspells, rfl⟩
    simp only [parseReplacement, hspan]
    exact mapError_eq_ok_iff.2 (Replacement.of?_eq_ok_iff.2 ⟨rfl, hstop, htext.symm⟩)

/-! ## Shapes of a fix -/

/-- How a fix lists its items: as a list, as an object with such a list, or as the only item itself. -/
inductive ListsItems (items : List Value) : Value → Prop
  | list : ListsItems items (.list items)
  | object {ms : Members} : member? ms "replacements" = some (.list items) → ListsItems items (.object ms)
  | bare {ms : Members} : items = [.object ms] → member? ms "replacements" = none →
      ListsItems items (.object ms)

theorem ListsItems.fixItems_eq {items : List Value} {v : Value} (h : ListsItems items v) :
    fixItems v = .ok items := by
  cases h with
  | list => rfl
  | object hlist => simp only [fixItems, hlist]
  | bare hitems hnone => simp only [fixItems, hnone, hitems]

theorem ListsItems.ne_null {items : List Value} {v : Value} (h : ListsItems items v) : v ≠ .null := by
  rintro rfl
  cases h

/-- What is no null is read as the replacements of its items. -/
theorem parseFix_of_ne_null {v : Value} (h : v ≠ .null) :
    parseFix v = (fixItems v >>= fun items => some <$> items.mapM parseReplacement) := by
  cases v with
  | null => exact absurd rfl h
  | _ => simp only [parseFix, map_eq_pure_bind]

theorem parseFix_eq_ok_iff {v : Value} {fix : Option (List Replacement)} (h : v ≠ .null) :
    parseFix v = .ok fix ↔ ∃ items replacements, fixItems v = .ok items ∧
      List.Forall₂ (fun item r => Replacement.IsWrittenBy r item) items replacements ∧
      some replacements = fix := by
  simp only [parseFix_of_ne_null h, map_eq_pure_bind, bind_eq_ok_iff, mapM_eq_ok_iff,
    parseReplacement_eq_ok_iff, pure, Except.pure, Except.ok.injEq, exists_and_left]

/-- Only null stands for no fix. -/
theorem parseFix_eq_none_iff {v : Value} : parseFix v = .ok none ↔ v = .null := by
  constructor
  · intro h
    by_contra hv
    obtain ⟨_, _, -, -, hnone⟩ := (parseFix_eq_ok_iff hv).1 h
    cases hnone
  · rintro rfl
    rfl

/-! ## The canonical form -/

/-- Replacements in every spelling and shape are read as they are, in order. Any value but null is read as
the replacements that its items write, each of which has its ends in order, or is an error of the library
about its response. -/
theorem parseFix_canonical :
    (∀ items replacements v, ListsItems items v →
        List.Forall₂ (fun item r => Replacement.IsSpeltBy r item) items replacements →
        parseFix v = .ok (some replacements)) ∧
      (∀ v, parseFix v = .ok none ↔ v = .null) ∧
      ∀ v, v ≠ .null →
        (∃ items replacements, parseFix v = .ok (some replacements) ∧ fixItems v = .ok items ∧
          List.Forall₂ (fun item r => Replacement.IsWrittenBy r item) items replacements ∧
          ∀ r ∈ replacements, 0 ≤ (r.start : Int) ∧ (r.start : Int) ≤ r.stop) ∨
        ∃ e cause, parseFix v = .error e ∧ LintError.ofPayload e = .bridge cause ∧ cause.isProtocolError := by
  refine ⟨?_, fun v => parseFix_eq_none_iff, ?_⟩
  · intro items replacements v hv hitems
    have hwritten := hitems.imp fun _ _ => Replacement.IsSpeltBy.isWrittenBy
    exact (parseFix_eq_ok_iff hv.ne_null).2 ⟨items, replacements, hv.fixItems_eq, hwritten, rfl⟩
  · intro v hv
    cases hread : parseFix v with
    | ok fix =>
      obtain ⟨items, replacements, hitems, hwritten, rfl⟩ := (parseFix_eq_ok_iff hv).1 hread
      have hordered : ∀ r ∈ replacements, 0 ≤ (r.start : Int) ∧ (r.start : Int) ≤ r.stop := by
        intro r _
        have hle := r.start_le_stop
        omega
      exact .inl ⟨items, replacements, rfl, hitems, hwritten, hordered⟩
    | error e =>
      have hcause := LintError.ofPayload_of_ofLibrary (ofLibrary_of_parseFix hread)
      exact .inr ⟨e, .badResult e, rfl, hcause, rfl⟩

theorem parseFix_canonical_mixed_spellings :
    let one : Value := .float (.finite false 4503599627370496 (-52))
    let four : Value := .float (.finite false 4503599627370496 (-50))
    let items : List Value := [
      .object [("innerStart", .int 0), ("innerLength", one), ("innerText", .text "a"), ("start", .int 7)],
      .object [("length", .null), ("start", one), ("end", .int 4), ("text", .text "bc")],
      .object [("text", .text ""), ("length", .int 0), ("start", four)]]
    parseFix (.object [("ruleName", .text "quotemark"), ("replacements", .list items)]) =
      .ok (some [⟨0, 1, "a", by decide⟩, ⟨1, 4, "bc", by decide⟩, ⟨4, 4, "", by decide⟩]) := by
  intro one four items
  have hone : one.IsNumber 1 := asInt?_eq_some_iff.1 (by decide)
  have hfour : four.IsNumber 4 := asInt?_eq_some_iff.1 (by decide)
  have hint (i : Int) : (Value.int i).IsNumber i := .inl rfl
  have hfirst : Replacement.IsSpeltBy ⟨0, 1, "a", by decide⟩ items[0] :=
    ⟨_, .inner, rfl, .inner ⟨_, rfl, hint 0⟩ ⟨_, rfl, hone⟩, rfl⟩
  have hsecond : Replacement.IsSpeltBy ⟨1, 4, "bc", by decide⟩ items[1] :=
    ⟨_, .ends, rfl, .ends rfl ⟨_, rfl, hone⟩ ⟨_, rfl, hint 4⟩, rfl⟩
  have hthird : Replacement.IsSpeltBy ⟨4, 4, "", by decide⟩ items[2] :=
    ⟨_, .measured, rfl, .measured rfl (by rintro i ⟨v, ⟨⟩, -⟩) ⟨_, rfl, hfour⟩ ⟨_, rfl, hint 0⟩, rfl⟩
  exact parseFix_canonical.1 items _ _ (.object rfl)
    (.cons hfirst (.cons hsecond (.cons hthird .nil)))

end LintBridge
