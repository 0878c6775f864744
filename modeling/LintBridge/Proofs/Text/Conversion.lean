-- SUMMARY: Going from offsets to positions and back loses nothing but what is clamped, and keeps the order.
import LintBridge.Proofs.Text.Division

/-!
# Conversions

An offset lies on the line that begins at or before it, unless the next line does too. Lines come one after
the other, so there is one such line for every offset of the text. The position of an offset and the offset of
a position follow from it in both directions, and both keep the order.
-/

namespace LintBridge.Text

/-- Order by line, then by character. -/
def Position.le (p q : Position) : Prop := p.line < q.line ∨ p.line = q.line ∧ p.character ≤ q.character

/-- Whether an offset lies between the CR and the LF of a break. -/
def PartsBreak (s : List Char) (p : Nat) : Prop :=
  ∃ before after, s = before ++ '\r' :: '\n' :: after ∧ p = unitLength before + 1

theorem insideBreak_units_iff (s : List Char) (p : Nat) : insideBreak (units s) p ↔ PartsBreak s p := by
  induction s generalizing p with
  | nil => cases p <;> simp [insideBreak, PartsBreak, around]
  | cons c s ih =>
    rw [insideBreak_units_cons, ih]
    constructor
    · rintro (⟨rfl, rfl, after, rfl⟩ | ⟨hp, before, after, rfl, h⟩)
      · exact ⟨[], after, rfl, rfl⟩
      · refine ⟨c :: before, after, rfl, ?_⟩
        rw [unitLength_cons]
        omega
    · rintro ⟨before, after, h, rfl⟩
      cases before with
      | nil =>
        cases h
        exact .inl ⟨rfl, rfl, after, rfl⟩
      | cons d before =>
        rw [List.cons_append, List.cons.injEq] at h
        obtain ⟨rfl, rfl⟩ := h
        rw [unitLength_cons]
        exact .inr ⟨by omega, before, after, rfl, by omega⟩

namespace Snapshot

variable {s : Snapshot}

/-! ## The order of lines -/

theorem start_le_stop {i : Nat} {line : Line} (h : s.lines[i]? = some line) : line.start ≤ line.stop := by
  obtain ⟨d, hd⟩ := Division.exists_divides s.text
  exact hd.tabulates.forward line (List.mem_of_getElem? h)

/-- A line ends before any later line begins. -/
theorem stop_lt_start {i j : Nat} {line later : Line} (hline : s.lines[i]? = some line)
    (hlater : s.lines[j]? = some later) (hij : i < j) : line.stop < later.start := by
  obtain ⟨d, hd⟩ := Division.exists_divides s.text
  induction j generalizing later with
  | zero => omega
  | succ j ih =>
    have hj : j < s.lines.length := by
      have := (List.getElem?_eq_some_iff.1 hlater).1
      omega
    have hbreak := hd.tabulates.breaks j s.lines[j] later (List.getElem?_eq_getElem hj) hlater
    obtain rfl | hij := Nat.eq_or_lt_of_le (Nat.le_of_lt_succ hij)
    · obtain rfl : s.lines[i] = line := by simpa [hj] using hline
      omega
    · have := ih (List.getElem?_eq_getElem hj) hij
      have := start_le_stop (List.getElem?_eq_getElem hj)
      omega

theorem start_le_start {i j : Nat} {line later : Line} (hline : s.lines[i]? = some line)
    (hlater : s.lines[j]? = some later) (hij : i ≤ j) : line.start ≤ later.start := by
  obtain rfl | hij := Nat.eq_or_lt_of_le hij
  · cases hline.symm.trans hlater
    exact Nat.le_refl _
  · have := start_le_stop hline
    have := stop_lt_start hline hlater hij
    omega

/-! ## The line of an offset -/

/-- A position on a line lies there. -/
theorem liesOn_offsetAt {p : Position} {line : Line} (hline : s.lines[p.line]? = some line)
    (hp : p.character ≤ line.stop - line.start) :
    s.offsetAt p = line.start + p.character ∧ s.LiesOn (line.start + p.character) p.line line := by
  have hle := start_le_stop hline
  refine ⟨?_, hline, Nat.le_add_right _ _, fun next hnext => ?_⟩
  · simp only [offsetAt, hline]
    omega
  · have := stop_lt_start hline hnext (Nat.lt_succ_self _)
    omega

/-- An offset that comes later lies on the same line or on a later one. -/
theorem LiesOn.le {p p' i i' : Nat} {line line' : Line} (h : s.LiesOn p i line) (h' : s.LiesOn p' i' line')
    (hle : p ≤ p') : i < i' ∨ i = i' ∧ line = line' := by
  obtain hlt | rfl | hlt := Nat.lt_trichotomy i i'
  · exact .inl hlt
  · exact .inr ⟨rfl, Option.some.inj (h.is_line.symm.trans h'.is_line)⟩
  · -- the line after the one of the later offset begins at or before the earlier offset
    have hnext : i' + 1 < s.lines.length := Nat.lt_of_le_of_lt hlt (List.getElem?_eq_some_iff.1 h.is_line).1
    have hbehind := h'.next _ (List.getElem?_eq_getElem hnext)
    have := start_le_start (List.getElem?_eq_getElem hnext) h.is_line hlt
    have := h.begun
    omega

theorem LiesOn.unique {p i i' : Nat} {line line' : Line} (h : s.LiesOn p i line) (h' : s.LiesOn p i' line') :
    i = i' ∧ line = line' := by
  rcases h.le h' (Nat.le_refl p) with hlt | hsame
  · rcases h'.le h (Nat.le_refl p) with hlt' | ⟨rfl, rfl⟩ <;> omega
  · exact hsame

/-! ## Both directions -/

theorem clamp_of_le {n : Nat} (h : n ≤ s.length) : s.clamp n = n := by
  unfold clamp
  omega

theorem clamp_mono {offset offset' : Int} (h : offset ≤ offset') : s.clamp offset ≤ s.clamp offset' := by
  unfold clamp
  omega

/-- An offset comes back as itself, clamped to the text, and moved before a break that it parts. -/
theorem offsetAt_positionAt_eq {offset : Int} {p : Position} (h : s.positionAt offset = .ok p) :
    (PartsBreak s.text (s.clamp offset) → s.offsetAt p + 1 = s.clamp offset) ∧
      (¬ PartsBreak s.text (s.clamp offset) → s.offsetAt p = s.clamp offset) := by
  have hle : min (s.clamp offset) s.length = s.clamp offset := by
    unfold clamp
    omega
  rw [offsetAt_positionAt h, settle, hle, ← insideBreak_units_iff]
  refine ⟨fun hparts => ?_, fun hparts => if_neg hparts⟩
  have hpos : s.clamp offset ≠ 0 := by
    intro hzero
    rw [hzero] at hparts
    cases hparts
  simp only [hparts, if_true]
  omega

/-- A position on a line comes back as itself. -/
theorem positionAt_offsetAt {p : Position} {line : Line} (hline : s.lines[p.line]? = some line)
    (hp : p.character ≤ line.stop - line.start) : s.positionAt (s.offsetAt p) = .ok p := by
  obtain ⟨hoffset, hlies⟩ := liesOn_offsetAt hline hp
  have hclamp : s.clamp (s.offsetAt p) = line.start + p.character :=
    (clamp_of_le (s.offsetAt_le p)).trans hoffset
  obtain ⟨i, line', -, hlies', -, hposition⟩ := s.positionAt_eq (s.offsetAt p)
  rw [hclamp] at hlies' hposition
  obtain ⟨rfl, rfl⟩ := hlies.unique hlies'
  rw [hposition, Nat.add_sub_cancel_left, Position.of?_self]

theorem positionAt_mono {offset offset' : Int} {p p' : Position} (hle : offset ≤ offset')
    (h : s.positionAt offset = .ok p) (h' : s.positionAt offset' = .ok p') : p.le p' := by
  obtain ⟨i, line, -, hlies, -, hposition⟩ := s.positionAt_eq offset
  obtain ⟨i', line', -, hlies', -, hposition'⟩ := s.positionAt_eq offset'
  obtain ⟨hline, hcharacter⟩ := Position.of?_eq_ok (hposition.symm.trans h)
  obtain ⟨hline', hcharacter'⟩ := Position.of?_eq_ok (hposition'.symm.trans h')
  have hclamp := s.clamp_mono hle
  unfold Position.le
  rcases hlies.le hlies' hclamp with hlt | ⟨rfl, rfl⟩ <;> omega

theorem offsetAt_mono {p p' : Position} (h : p.le p') : s.offsetAt p ≤ s.offsetAt p' := by
  cases hline' : s.lines[p'.line]? with
  | none =>
    have hlength : s.offsetAt p' = s.length := by simp only [offsetAt, hline']
    rw [hlength]
    exact s.offsetAt_le p
  | some line' =>
    have hle : p.line ≤ p'.line := by rcases h with h | ⟨h, -⟩ <;> omega
    obtain ⟨line, hline⟩ : ∃ line, s.lines[p.line]? = some line :=
      ⟨_, List.getElem?_eq_getElem (Nat.lt_of_le_of_lt hle (List.getElem?_eq_some_iff.1 hline').1)⟩
    simp only [offsetAt, hline, hline']
    rcases h with hlt | ⟨heq, hcharacter⟩
    · have := stop_lt_start hline hline' hlt
      have := start_le_stop hline'
      omega
    · rw [heq] at hline
      cases hline.symm.trans hline'
      omega

/-- In a text that the editor protocol can count, every offset has a position and comes back from it, clamped
to the text and moved before a break that it parts. A position up to the end of the content of its line comes
back from its offset. Both ways keep the order. -/
theorem conversions_inverse_up_to_clamping (hs : s.length < 0x80000000) :
    (∀ offset : Int, ∃ p, s.positionAt offset = .ok p ∧
      (PartsBreak s.text (s.clamp offset) → s.offsetAt p + 1 = s.clamp offset) ∧
      (¬ PartsBreak s.text (s.clamp offset) → s.offsetAt p = s.clamp offset)) ∧
    (∀ (p : Position) (line : Line), s.lines[p.line]? = some line → p.character ≤ line.stop - line.start →
      s.positionAt (s.offsetAt p) = .ok p) ∧
    (∀ offset offset' : Int, offset ≤ offset' →
      ∃ p p', s.positionAt offset = .ok p ∧ s.positionAt offset' = .ok p' ∧ p.le p') ∧
    ∀ p p' : Position, p.le p' → s.offsetAt p ≤ s.offsetAt p' := by
  refine ⟨fun offset => ?_, fun p line => positionAt_offsetAt, fun offset offset' hle => ?_,
    fun p p' => offsetAt_mono⟩
  · obtain ⟨p, hp⟩ := positionAt_isOk hs offset
    exact ⟨p, hp, offsetAt_positionAt_eq hp⟩
  · obtain ⟨p, hp⟩ := positionAt_isOk hs offset
    obtain ⟨p', hp'⟩ := positionAt_isOk hs offset'
    exact ⟨p, p', hp, hp', positionAt_mono hle hp hp'⟩

theorem conversions_inverse_mixed_breaks :
    let s : Snapshot := ⟨"a\r\n😀\rb".toList⟩
    let p : Position := ⟨1, 2, by decide, by decide⟩
    let past : Position := ⟨0, 9, by decide, by decide⟩
    s.length < 0x80000000 ∧ (∃ p, s.positionAt 2 = .ok p ∧ s.offsetAt p + 1 = 2) ∧
      s.positionAt (s.offsetAt p) = .ok p ∧
      (∃ p p', s.positionAt (-3) = .ok p ∧ s.positionAt 100 = .ok p' ∧ p.le p') ∧
      s.offsetAt past ≤ s.offsetAt p := by
  intro s p past
  have hs : s.length < 0x80000000 := by decide
  obtain ⟨hoffset, hposition, hmono, hmono'⟩ := conversions_inverse_up_to_clamping hs
  obtain ⟨q, hq, hparted, -⟩ := hoffset 2
  have hparts : PartsBreak s.text (s.clamp 2) := ⟨['a'], "😀\rb".toList, by decide, by decide⟩
  have hline : s.lines[p.line]? = some ⟨3, 5⟩ := by decide
  exact ⟨hs, ⟨q, hq, hparted hparts⟩, hposition p _ hline (by decide), hmono (-3) 100 (by decide),
    hmono' past p (.inl (by decide))⟩

end Snapshot

end LintBridge.Text
