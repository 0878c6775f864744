-- SUMMARY: The bytes of a text into which spans are woven: those outside the spans are kept, in order.
import LintBridge.Proofs.Text.Splice
import LintBridge.Text.Utf8

/-!
# Spans in bytes

Spans are counted in units, but a file holds bytes. An offset in units stands for the end of the last
character before it. The bytes of a text are then runs that no span covers, with the bytes of a span
between two of them, and weaving exchanges the bytes of each span and keeps every run.
-/

namespace LintBridge.Text

open Utf8

/-! ## Offsets in bytes -/

/-- The number of bytes of the characters that end at or before a unit offset. -/
def byteAt : List Char → Nat → Nat
  | [], _ => 0
  | c :: rest, offset => if width c ≤ offset then c.utf8Size + byteAt rest (offset - width c) else 0

/-- The bytes of a text between two unit offsets. -/
def bytesBetween (s : List Char) (ends : Nat × Nat) : List UInt8 :=
  ((encode s).take (byteAt s ends.2)).drop (byteAt s ends.1)

theorem encode_append (s t : List Char) : encode (s ++ t) = encode s ++ encode t := by
  simp [encode]

@[simp] theorem byteAt_zero (s : List Char) : byteAt s 0 = 0 := by
  cases s with
  | nil => rfl
  | cons c s =>
    have hwidth := width_eq c
    exact if_neg (by omega)

theorem byteAt_append (s t : List Char) : byteAt (s ++ t) (unitLength s) = (encode s).length := by
  induction s with
  | nil => exact byteAt_zero t
  | cons c s ih =>
    rw [List.cons_append, byteAt, unitLength_cons, if_pos (Nat.le_add_right ..), Nat.add_sub_cancel_left,
      ih]
    simp [encode]

theorem byteAt_unitLength (s : List Char) : byteAt s (unitLength s) = (encode s).length := by
  simpa using byteAt_append s []

theorem byteAt_mono (s : List Char) {a b : Nat} (h : a ≤ b) : byteAt s a ≤ byteAt s b := by
  induction s generalizing a b with
  | nil => exact Nat.le_refl _
  | cons c s ih =>
    unfold byteAt
    by_cases ha : width c ≤ a
    · rw [if_pos ha, if_pos (Nat.le_trans ha h)]
      exact Nat.add_le_add_left (ih (Nat.sub_le_sub_right h _)) _
    · rw [if_neg ha]
      exact Nat.zero_le _

/-- The bytes between two characters encode the text between them. -/
theorem bytesBetween_split (x y z : List Char) :
    bytesBetween (x ++ y ++ z) (unitLength x, unitLength x + unitLength y) = encode y := by
  have hstart : byteAt (x ++ y ++ z) (unitLength x) = (encode x).length := by
    rw [List.append_assoc, byteAt_append]
  have hstop : byteAt (x ++ y ++ z) (unitLength x + unitLength y) = (encode x ++ encode y).length := by
    rw [← unitLength_append, byteAt_append, encode_append]
  simp only [bytesBetween, hstart, hstop, encode_append, List.take_left, List.drop_left]

/-- A piece of a text is encoded by the bytes between its ends. -/
theorem encode_of_slice? {s t : List Char} {a b : Nat} (hab : a ≤ b) (hb : b ≤ unitLength s)
    (h : slice? s a b = some t) : encode t = bytesBetween s (a, b) := by
  obtain rfl | hlt := Nat.eq_or_lt_of_le hab
  · have hunits := units_of_slice? hab hb h
    have ht : t = [] := by
      have hread := ofUnits?_units t
      rw [hunits] at hread
      simpa [List.drop_take, ofUnits?, eq_comm] using hread
    simp [ht, bytesBetween, encode]
  · have hcut : ¬ (insidePair (units s) a ∨ insidePair (units s) b) := by
      intro hcut
      cases h.symm.trans ((slice?_eq_none_iff hab hb).2 ⟨hlt, hcut⟩)
    rw [not_or] at hcut
    obtain ⟨x, y, z, rfl, rfl, rfl⟩ := exists_split_twice hab hb hcut.1 hcut.2
    rw [slice?_split, Option.some.injEq] at h
    rw [bytesBetween_split, h]

theorem encode_of_keep {s : Snapshot} {a b : Nat} {t : List Char} (hab : a ≤ b) (hb : b ≤ s.length)
    (h : s.keep a b = .ok t) : encode t = bytesBetween s.text (a, b) := by
  unfold Snapshot.keep Snapshot.slice? at h
  split at h
  next piece hpiece =>
    cases h
    exact encode_of_slice? hab hb hpiece
  next => cases h

/-! ## Runs of bytes -/

/-- Runs of bytes one after the other, with other bytes between each and the next. -/
def interleave : (runs between : List (List UInt8)) → List UInt8
  | run :: runs, bytes :: between => run ++ bytes ++ interleave runs between
  | runs, _ => runs.flatten

/-- The runs of bytes that no span covers. -/
def keptRuns (s : List Char) (cursor : Nat) (spans : List Span) : List (List UInt8) :=
  (gaps (unitLength s) cursor spans).map (bytesBetween s)

theorem drop_eq_bytesBetween_append (s : List Char) {a b : Nat} (h : a ≤ b) :
    (encode s).drop (byteAt s a) = bytesBetween s (a, b) ++ (encode s).drop (byteAt s b) := by
  have hmono := byteAt_mono s h
  have hback : (encode s).drop (byteAt s b) =
      ((encode s).drop (byteAt s a)).drop (byteAt s b - byteAt s a) := by
    rw [List.drop_drop, Nat.add_sub_cancel' hmono]
  rw [hback, bytesBetween, List.drop_take, List.take_append_drop]

/-- The bytes of a text into which spans can be woven are the kept runs with the bytes of the spans
between them. -/
theorem encode_eq_interleave {s : Snapshot} {cursor : Nat} {spans : List Span} {t : Codes}
    (hwithin : ∀ span ∈ spans, span.Within s.length) (h : s.weave cursor spans = .ok t) :
    (encode s.text).drop (byteAt s.text cursor) = interleave (keptRuns s.text cursor spans)
      (spans.map fun span => bytesBetween s.text (span.start, span.stop)) := by
  induction spans generalizing cursor t with
  | nil =>
    simp [keptRuns, gaps, interleave, bytesBetween, byteAt_unitLength]
  | cons span rest ih =>
    rw [List.forall_mem_cons] at hwithin
    obtain ⟨⟨hstop, -⟩, hrest⟩ := hwithin
    obtain ⟨hbegin, kept, -, after, hafter, -⟩ := weave_cons_eq_ok_iff.1 h
    rw [Nat.max_eq_right (Nat.le_trans hbegin hstop)] at hafter
    rw [drop_eq_bytesBetween_append s.text hbegin, drop_eq_bytesBetween_append s.text hstop,
      ih hrest hafter, ← List.append_assoc]
    rfl

/-- The bytes of the text with spans woven in are the kept runs with the new texts between them. -/
theorem encode_weave {s : Snapshot} {cursor : Nat} {spans : List Span} {t : List Char}
    (hcursor : cursor ≤ s.length) (hwithin : ∀ span ∈ spans, span.Within s.length)
    (h : s.weave cursor spans = .ok (.ofChars t)) :
    ∃ texts : List (List Char), spans.map (·.newText) = texts.map Codes.ofChars ∧
      encode t = interleave (keptRuns s.text cursor spans) (texts.map encode) := by
  induction spans generalizing cursor t with
  | nil =>
    obtain ⟨kept, hkept, ht⟩ := weave_nil_eq_ok_iff.1 h
    rw [Codes.ofChars_inj] at ht
    refine ⟨[], rfl, ?_⟩
    rw [ht, encode_of_keep hcursor (Nat.le_refl _) hkept]
    simp [keptRuns, gaps, interleave, Snapshot.length]
  | cons span rest ih =>
    rw [List.forall_mem_cons] at hwithin
    obtain ⟨⟨hstop, hstopLen⟩, hrest⟩ := hwithin
    obtain ⟨hbegin, kept, hkept, after, hafter, ht⟩ := weave_cons_eq_ok_iff.1 h
    rw [Nat.max_eq_right (Nat.le_trans hbegin hstop)] at hafter
    have hwhole : Codes.Whole (.ofChars kept ++ span.newText ++ after) := ht ▸ Codes.whole_ofChars t
    obtain ⟨⟨-, ⟨new, hnew⟩⟩, ⟨after, rfl⟩⟩ := by simpa only [Codes.whole_append_iff] using hwhole
    rw [hnew, ← Codes.ofChars_append, ← Codes.ofChars_append, Codes.ofChars_inj] at ht
    obtain ⟨texts, htexts, hencode⟩ := ih hstopLen hrest hafter
    refine ⟨new :: texts, by rw [List.map_cons, List.map_cons, hnew, htexts], ?_⟩
    have hrun := encode_of_keep hbegin (Nat.le_trans hstop hstopLen) hkept
    rw [ht, encode_append, encode_append, hrun, hencode]
    rfl

end LintBridge.Text
