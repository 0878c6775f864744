-- SUMMARY: What becomes of an offset on its way to a position and back.
import LintBridge.Proofs.Text.Boundary

/-!
# Lines and offsets

A position counts from the last line that begins at or before an offset. That line ends no earlier than
the offset, except when the offset parts its CR LF. So going to a position and back gives the offset
itself, within the text and in front of a break that it would part.
-/

namespace LintBridge.Text

/-! ## The lines of a text -/

theorem linesFrom_eq_cons (start here : Nat) (s : List Char) :
    ∃ stop rest, linesFrom start here s = ⟨start, stop⟩ :: rest := by
  fun_induction linesFrom start here s with
  | case1 => exact ⟨_, _, rfl⟩
  | case2 => exact ⟨_, _, rfl⟩
  | case3 => exact ⟨_, _, rfl⟩
  | case4 start here c rest _ _ ih => exact ih

theorem length_linesFrom_le (start here : Nat) (s : List Char) :
    (linesFrom start here s).length ≤ unitLength s + 1 := by
  fun_induction linesFrom start here s with
  | case1 => simp
  | case2 start here rest ih => simp [width]; omega
  | case3 start here c rest _ hc ih =>
    have := width_eq c
    simp; omega
  | case4 start here c rest _ _ ih => simp; omega

theorem stop_le_of_mem_linesFrom {start here : Nat} {s : List Char} {l : Line}
    (h : l ∈ linesFrom start here s) : l.stop ≤ here + unitLength s := by
  fun_induction linesFrom start here s with
  | case1 => simp_all
  | case2 start here rest ih =>
    rcases List.mem_cons.1 h with rfl | h
    · simp
    · have := ih h
      simp [width]
      omega
  | case3 start here c rest _ hc ih =>
    have := width_eq c
    rcases List.mem_cons.1 h with rfl | h
    · simp
    · have := ih h
      simp
      omega
  | case4 start here c rest _ _ ih =>
    have := ih h
    simp
    omega

/-- The last of some lines that begins at or before an offset, when later lines begin later. -/
def lastBegun (ls : List Line) (p : Nat) : Option Line := (ls.takeWhile (·.start ≤ p)).getLast?

theorem lastBegun_cons_of_lt {start here p : Nat} {l : Line} {s : List Char} (hl : l.start ≤ p)
    (hp : p < start) : lastBegun (l :: linesFrom start here s) p = some l := by
  obtain ⟨stop, rest, h⟩ := linesFrom_eq_cons start here s
  simp [lastBegun, h, hl, hp]

theorem lastBegun_cons_of_le {start here p : Nat} {l : Line} {s : List Char} (hl : l.start ≤ p)
    (hp : start ≤ p) :
    lastBegun (l :: linesFrom start here s) p = lastBegun (linesFrom start here s) p := by
  obtain ⟨stop, rest, h⟩ := linesFrom_eq_cons start here s
  simp [lastBegun, h, hl, hp]

/-! ## The line of an offset -/

theorem insideBreak_crlf (s : List Char) (p : Nat) :
    insideBreak (units ('\r' :: '\n' :: s)) p ↔ p = 1 ∨ 2 ≤ p ∧ insideBreak (units s) (p - 2) := by
  have : width '\r' = 1 := rfl
  have : width '\n' = 1 := rfl
  simp only [insideBreak_units_cons]
  grind

/-- A character before an offset moves it, unless it makes a break with the next one. -/
theorem insideBreak_cons_of_not_crlf {c : Char} {s : List Char} (h : ∀ t, c = '\r' → s = '\n' :: t → False)
    (p : Nat) : insideBreak (units (c :: s)) p ↔ width c ≤ p ∧ insideBreak (units s) (p - width c) := by
  rw [insideBreak_units_cons, or_iff_right]
  rintro ⟨hc, -, t, ht⟩
  exact h t hc ht

/-- The last line that begins at or before an offset ends no earlier, except when the offset parts
the break of that line. -/
theorem lastBegun_linesFrom {start here p : Nat} {s : List Char} (hs : start ≤ here) (hp : start ≤ p)
    (hpl : p ≤ here + unitLength s) :
    ∃ l, lastBegun (linesFrom start here s) p = some l ∧ l.start ≤ p ∧
      min p l.stop = if insideBreak (units s) (p - here) then p - 1 else p := by
  fun_induction linesFrom start here s with
  | case1 start here =>
    refine ⟨⟨start, here⟩, by simp [lastBegun, hp], hp, ?_⟩
    simp only [unitLength_nil, Nat.add_zero] at hpl
    simp [Nat.sub_eq_zero_of_le hpl, insideBreak, hpl]
  | case2 start here rest ih =>
    have hlen : unitLength ('\r' :: '\n' :: rest) = unitLength rest + 2 := by
      simp [width]; omega
    simp only [insideBreak_crlf]
    by_cases h : p < here + 2
    · refine ⟨⟨start, here⟩, lastBegun_cons_of_lt hp h, hp, ?_⟩
      grind
    · obtain ⟨l, hl, hle, hmin⟩ := ih (Nat.le_refl _) (by omega) (by omega)
      refine ⟨l, (lastBegun_cons_of_le hp (by omega)).trans hl, hle, ?_⟩
      rw [hmin, show p - here - 2 = p - (here + 2) by omega]
      grind
  | case3 start here c rest hcrlf hc ih =>
    have hw : width c = 1 := by rcases hc with rfl | rfl <;> rfl
    rw [unitLength_cons, hw] at hpl
    simp only [insideBreak_cons_of_not_crlf hcrlf, hw]
    by_cases h : p < here + 1
    · refine ⟨⟨start, here⟩, lastBegun_cons_of_lt hp h, hp, ?_⟩
      grind
    · obtain ⟨l, hl, hle, hmin⟩ := ih (Nat.le_refl _) (by omega) (by omega)
      refine ⟨l, (lastBegun_cons_of_le hp (by omega)).trans hl, hle, ?_⟩
      rw [hmin, show p - here - 1 = p - (here + 1) by omega]
      grind
  | case4 start here c rest hcrlf _ ih =>
    rw [unitLength_cons] at hpl
    obtain ⟨l, hl, hle, hmin⟩ := ih (by omega) hp (by omega)
    refine ⟨l, hl, hle, ?_⟩
    simp only [insideBreak_cons_of_not_crlf hcrlf]
    rw [hmin, show p - here - width c = p - (here + width c) by omega]
    -- an offset that does not reach the rest of the text parts no break there
    have hzero : insideBreak (units rest) 0 = false := rfl
    grind

/-! ## Positions -/

namespace Snapshot

/-- The offset nearest to a given one at which a text may be edited: within the text, and before a
break that it would part. -/
def settle (s : Snapshot) (offset : Nat) : Nat :=
  let here := min offset s.length
  if insideBreak (units s.text) here then here - 1 else here

theorem settle_clamp (s : Snapshot) (offset : Nat) : s.settle (s.clamp offset) = s.settle offset := by
  have : s.clamp offset = min offset s.length := by unfold clamp; omega
  simp [settle, this]

/-- An offset lies on a line: the last one that begins at or before it. -/
structure LiesOn (s : Snapshot) (p i : Nat) (line : Line) : Prop where
  is_line : s.lines[i]? = some line
  begun : line.start ≤ p
  next : ∀ next, s.lines[i + 1]? = some next → p < next.start

/-- A position counts from the beginning of the line on which an offset lies. The end of that line gives the
offset back. -/
theorem positionAt_eq (s : Snapshot) (offset : Int) :
    ∃ (i : Nat) (l : Line), i ≤ s.length ∧ s.LiesOn (s.clamp offset) i l ∧
      min (s.clamp offset) l.stop = s.settle (s.clamp offset) ∧
      s.positionAt offset = Position.of? i (s.clamp offset - l.start : Nat) := by
  have hlen : s.clamp offset ≤ s.length := by unfold clamp; omega
  obtain ⟨l, hl, hle, hmin⟩ := lastBegun_linesFrom (Nat.le_refl 0) (Nat.zero_le (s.clamp offset))
    (s := s.text) (by simpa [length] using hlen)
  change (s.lines.takeWhile (·.start ≤ s.clamp offset)).getLast? = some l at hl
  have hlines : s.lines.takeWhile (·.start ≤ s.clamp offset) ++ s.lines.dropWhile (·.start ≤ s.clamp offset) =
      s.lines := List.takeWhile_append_dropWhile
  have hbehind := List.head?_dropWhile_not (fun line : Line => decide (line.start ≤ s.clamp offset)) s.lines
  generalize hbegun : s.lines.takeWhile (·.start ≤ s.clamp offset) = begun at hl hlines
  generalize s.lines.dropWhile (·.start ≤ s.clamp offset) = rest at hlines hbehind
  have hpos : 0 < begun.length := List.length_pos_iff.2 (by rintro rfl; cases hl)
  have hcount : begun.length ≤ s.length + 1 := by
    have := length_linesFrom_le 0 0 s.text
    have hle : begun.length ≤ s.lines.length := by rw [← hlines]; simp
    exact Nat.le_trans hle this
  refine ⟨begun.length - 1, l, by omega, ⟨?_, hle, fun next hnext => ?_⟩, ?_, ?_⟩
  · rw [← hlines, List.getElem?_append_left (by omega), ← List.getLast?_eq_getElem?, hl]
  · rw [← hlines, List.getElem?_append_right (by omega), Nat.sub_add_cancel hpos, Nat.sub_self,
      ← List.head?_eq_getElem?] at hnext
    rw [hnext] at hbehind
    simpa using hbehind
  · rw [hmin]; simp [settle, hlen]
  · simp only [positionAt, hbegun, hl, Option.map_some, Option.getD_some]
    rw [Int.ofNat_sub hpos, Int.ofNat_sub hle]
    rfl

theorem offsetAt_le (s : Snapshot) (p : Position) : s.offsetAt p ≤ s.length := by
  unfold offsetAt
  split
  next => exact Nat.le_refl _
  next line hline =>
    have hstop := stop_le_of_mem_linesFrom (List.mem_of_getElem? hline)
    exact Nat.le_trans (Nat.min_le_right ..) (by simpa [length] using hstop)

/-- Going to a position and back settles an offset. -/
theorem offsetAt_positionAt {s : Snapshot} {offset : Int} {p : Position}
    (h : s.positionAt offset = .ok p) : s.offsetAt p = s.settle (s.clamp offset) := by
  obtain ⟨i, l, -, hlies, hmin, hp⟩ := s.positionAt_eq offset
  obtain ⟨hl, hc⟩ := Position.of?_eq_ok (hp.symm.trans h)
  have hl : p.line = i := by omega
  have hc : l.start + p.character = s.clamp offset := by
    have := hlies.begun
    omega
  rw [offsetAt, hl, hlies.is_line]
  simp only [hc, hmin]

/-- In a text that the editor protocol can count, every offset has a position. -/
theorem positionAt_isOk {s : Snapshot} (hs : s.length < 0x80000000) (offset : Int) :
    ∃ p, s.positionAt offset = .ok p := by
  obtain ⟨i, l, hi, -, -, hp⟩ := s.positionAt_eq offset
  have hlen : s.clamp offset ≤ s.length := by unfold clamp; omega
  exact ⟨_, hp.trans (Position.of?_self ⟨i, s.clamp offset - l.start, by omega, by omega⟩)⟩

end Snapshot

end LintBridge.Text
