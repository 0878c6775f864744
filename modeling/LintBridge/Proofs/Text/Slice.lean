-- SUMMARY: A slice is the text between two unit offsets, and slices that meet join to the slice of both.
import LintBridge.Proofs.Text.Boundary

/-!
# Slices

A slice between two offsets of a text is refused when it has units and one of its ends parts a surrogate pair.
Else it is the part of the text that the units between the two offsets write. So the slice up to an offset and the
slice from it on together are the slice of the whole stretch.
-/

namespace LintBridge.Text

variable {s t t' : List Char} {a b c : Nat}

/-! ## Units between offsets -/

/-- A text that is part of another and written by its units between two offsets. -/
structure IsBetween (s : List Char) (a b : Nat) (t : List Char) : Prop where
  part : t <:+: s
  placed : ∃ front back, units s = front ++ (units t ++ back) ∧ front.length = a
  length : unitLength t = b - a

/-- The units between two offsets are those up to a place between them and those from there on. -/
theorem take_drop_append (us : List Nat) (hab : a ≤ b) (hbc : b ≤ c) :
    (us.take c).drop a = (us.take b).drop a ++ (us.take c).drop b := by
  have hfirst : (us.take b).drop a = ((us.take c).drop a).take (b - a) := by
    rw [← List.drop_take, List.take_take, Nat.min_eq_left hbc]
  have hsecond : (us.take c).drop b = ((us.take c).drop a).drop (b - a) := by
    rw [List.drop_drop, Nat.add_sub_cancel' hab]
  rw [hfirst, hsecond, List.take_append_drop]

/-! ## The text of a slice -/

theorem slice?_self (ha : a ≤ unitLength s) : slice? s a a = some [] := by
  rw [slice?_eq ha ha, List.drop_take, Nat.sub_self, List.take_zero, ofUnits?]

theorem part_of_slice? (hab : a ≤ b) (hb : b ≤ unitLength s) (h : slice? s a b = some t) : t <:+: s := by
  obtain rfl | hlt := Nat.eq_or_lt_of_le hab
  · obtain rfl : [] = t := Option.some.inj ((slice?_self hb).symm.trans h)
    exact List.nil_infix
  · have hcut : ¬(insidePair (units s) a ∨ insidePair (units s) b) := fun hcut => by
      cases h.symm.trans ((slice?_eq_none_iff hab hb).2 ⟨hlt, hcut⟩)
    rw [not_or] at hcut
    obtain ⟨x, y, z, rfl, rfl, rfl⟩ := exists_split_twice hab hb hcut.1 hcut.2
    obtain rfl : y = t := Option.some.inj ((slice?_split x y z).symm.trans h)
    exact List.infix_append x y z

/-- A slice stands between its offsets. -/
theorem isBetween_of_slice? (hab : a ≤ b) (hb : b ≤ unitLength s) (h : slice? s a b = some t) :
    IsBetween s a b t := by
  have hunits := units_of_slice? hab hb h
  have hlength : (units s).length = unitLength s := length_units s
  refine ⟨part_of_slice? hab hb h, ⟨(units s).take a, (units s).drop b, ?_, ?_⟩, ?_⟩
  · have hfront : (units s).take a = ((units s).take b).take a := by rw [List.take_take, Nat.min_eq_left hab]
    rw [hunits, hfront, ← List.append_assoc, List.take_append_drop, List.take_append_drop]
  · rw [List.length_take]
    omega
  · rw [← length_units, hunits, List.length_drop, List.length_take]
    omega

/-- Slices that meet are together the slice from the beginning of the first to the end of the second. -/
theorem slice?_append (hab : a ≤ b) (hbc : b ≤ c) (hc : c ≤ unitLength s) (h : slice? s a b = some t)
    (h' : slice? s b c = some t') : slice? s a c = some (t ++ t') := by
  have hb : b ≤ unitLength s := Nat.le_trans hbc hc
  rw [slice?_eq (Nat.le_trans hab hb) hc, take_drop_append (units s) hab hbc, ← units_of_slice? hab hb h,
    ← units_of_slice? hbc hc h', ← units_append, ofUnits?_units]

namespace Snapshot

/-- A slice is refused exactly when it has units and one of its ends parts a surrogate pair; any other stands
between its ends. Slices that meet join, and the slice from one end of the text to the other is the text. -/
theorem slice_between_offsets {s : Snapshot} {a b c : Nat} (hab : a ≤ b) (hbc : b ≤ c) (hc : c ≤ s.length) :
    (s.slice? a b = none ↔ a < b ∧ (insidePair (units s.text) a ∨ insidePair (units s.text) b)) ∧
      (∀ t, s.slice? a b = some t → IsBetween s.text a b t) ∧
      (∀ t t', s.slice? a b = some t → s.slice? b c = some t' → s.slice? a c = some (t ++ t')) ∧
      s.slice? 0 s.length = some s.text := by
  have hb : b ≤ unitLength s.text := Nat.le_trans hbc hc
  exact ⟨slice?_eq_none_iff hab hb, fun _ => isBetween_of_slice? hab hb, fun _ _ => slice?_append hab hbc hc,
    slice?_full s.text⟩

/-- The offset 2 parts the pair of the face: both slices that meet there are refused, those that meet behind it
join. -/
theorem slice_between_offsets_face :
    let s : Snapshot := ⟨"a😀b".toList⟩
    s.slice? 1 2 = none ∧ s.slice? 2 3 = none ∧ s.slice? 2 2 = some [] ∧
      IsBetween s.text 1 3 ['😀'] ∧ s.slice? 1 4 = some "😀b".toList := by
  intro s
  obtain ⟨hfirst, -, -, -⟩ := slice_between_offsets (s := s) (a := 1) (b := 2) (c := 3) (by decide) (by decide)
    (by decide)
  obtain ⟨hsecond, -, -, -⟩ := slice_between_offsets (s := s) (a := 2) (b := 3) (c := 3) (by decide) (by decide)
    (by decide)
  obtain ⟨-, hbetween, happend, -⟩ := slice_between_offsets (s := s) (a := 1) (b := 3) (c := 4) (by decide)
    (by decide) (by decide)
  have hface : s.slice? 1 3 = some ['😀'] := by decide
  exact ⟨hfirst.2 ⟨by decide, .inr (by decide)⟩, hsecond.2 ⟨by decide, .inl (by decide)⟩, by decide,
    hbetween _ hface, happend _ ['b'] hface (by decide)⟩

end Snapshot

end LintBridge.Text
