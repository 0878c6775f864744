-- SUMMARY: Offsets that part a surrogate pair or a line break, and when a slice is a text.
import LintBridge.Text.Snapshot

/-!
# Offsets between units

An offset stands between two units of a text. It parts a surrogate pair when these are a high and a low
surrogate, and a line break when they are CR and LF. An offset that parts no pair stands between two
characters, so a slice fails exactly when it has units and one of its ends parts a pair.
-/

namespace LintBridge.Text

/-! ## The units around an offset -/

/-- The units before and after an offset. -/
def around (us : List Nat) : Nat → Option (Nat × Nat)
  | 0 => none
  | p + 1 => us[p]?.bind fun u => us[p + 1]?.map (u, ·)

/-- Whether an offset parts a surrogate pair. -/
def insidePair (us : List Nat) (p : Nat) : Bool :=
  (around us p).any fun (u, v) => isHighSurrogate u && isLowSurrogate v

/-- Whether an offset parts a CR LF break. -/
def insideBreak (us : List Nat) (p : Nat) : Bool := around us p == some (0x0D, 0x0A)

@[simp] theorem around_zero (us : List Nat) : around us 0 = none := rfl

@[simp] theorem around_cons_one (u : Nat) (us : List Nat) :
    around (u :: us) 1 = us.head?.map (u, ·) := by
  cases us <;> simp [around]

@[simp] theorem around_cons_add_two (u : Nat) (us : List Nat) (p : Nat) :
    around (u :: us) (p + 2) = around us (p + 1) := by
  simp [around]

/-! ## Characters as units -/

theorem width_eq (c : Char) : width c = 1 ∨ width c = 2 := by
  unfold width; split <;> simp

theorem charUnits_of_narrow {c : Char} (h : width c = 1) :
    charUnits c = [c.toNat] ∧ isHighSurrogate c.toNat = false := by
  rcases charUnits_cases c with ⟨-, hc⟩ | ⟨_, _, hwide, -⟩
  · exact ⟨hc, (not_isSurrogate c).1⟩
  · omega

/-- The two units of a wide character are a high and a low surrogate. -/
theorem charUnits_of_wide {c : Char} (h : width c = 2) :
    ∃ u v, charUnits c = [u, v] ∧ isHighSurrogate u ∧ isLowSurrogate v := by
  rcases charUnits_cases c with ⟨hnarrow, -⟩ | ⟨u, v, -, hc, hu, hv, -⟩
  · omega
  · exact ⟨u, v, hc, hu, hv⟩

theorem not_high_of_low {u : Nat} (h : isLowSurrogate u) : isHighSurrogate u = false := by
  simp only [isLowSurrogate, isHighSurrogate, Bool.and_eq_true, Bool.and_eq_false_iff,
    decide_eq_true_eq, decide_eq_false_iff_not] at h ⊢
  omega

/-! ## Offsets within a text -/

theorem insidePair_charUnits_append (c : Char) (us : List Nat) (p : Nat) :
    insidePair (charUnits c ++ us) p ↔
      (width c = 2 ∧ p = 1) ∨ (width c ≤ p ∧ insidePair us (p - width c)) := by
  rcases width_eq c with h | h
  · obtain ⟨hu, hc⟩ := charUnits_of_narrow h
    rw [hu, h]
    match p with
    | 0 => simp [insidePair]
    | 1 => cases us <;> simp [insidePair, hc]
    | p + 2 => simp [insidePair]
  · obtain ⟨u, v, hcu, hu, hv⟩ := charUnits_of_wide h
    rw [hcu, h]
    match p with
    | 0 => simp [insidePair]
    | 1 => simp [insidePair, hu, hv]
    | 2 => cases us <;> simp [insidePair, not_high_of_low hv]
    | p + 3 => simp [insidePair]

theorem surrogate_ne_break {u : Nat} (h : isHighSurrogate u ∨ isLowSurrogate u) :
    u ≠ 0x0D ∧ u ≠ 0x0A := by
  simp only [isLowSurrogate, isHighSurrogate, Bool.and_eq_true, decide_eq_true_eq] at h
  omega

theorem toNat_eq_iff {c d : Char} : c.toNat = d.toNat ↔ c = d := by
  constructor
  · intro h
    rw [← Char.ofNat_toNat c, h, Char.ofNat_toNat]
  · rintro rfl
    rfl

theorem head?_units_eq_lf (s : List Char) : (units s).head? = some 0x0A ↔ ∃ t, s = '\n' :: t := by
  cases s with
  | nil => simp
  | cons c s =>
    rcases width_eq c with h | h
    · obtain ⟨hu, -⟩ := charUnits_of_narrow h
      simp [hu, ← toNat_eq_iff (d := '\n')]
    · obtain ⟨u, v, hcu, hu, -⟩ := charUnits_of_wide h
      have hc : c ≠ '\n' := by rintro rfl; cases h
      simp [hcu, hc, surrogate_ne_break (.inl hu)]

theorem insideBreak_units_cons (c : Char) (s : List Char) (p : Nat) :
    insideBreak (units (c :: s)) p ↔
      (c = '\r' ∧ p = 1 ∧ ∃ t, s = '\n' :: t) ∨
        (width c ≤ p ∧ insideBreak (units s) (p - width c)) := by
  rw [units_cons, ← head?_units_eq_lf]
  rcases width_eq c with h | h
  · obtain ⟨hu, -⟩ := charUnits_of_narrow h
    rw [hu, h, ← toNat_eq_iff (d := '\r')]
    match p with
    | 0 => simp [insideBreak]
    | 1 => cases units s <;> simp [insideBreak]
    | p + 2 => simp [insideBreak]
  · obtain ⟨u, v, hcu, hu, hv⟩ := charUnits_of_wide h
    have hu := surrogate_ne_break (.inl hu)
    have hv := surrogate_ne_break (.inr hv)
    have hc : c ≠ '\r' := by rintro rfl; cases h
    rw [hcu, h]
    match p with
    | 0 => simp [insideBreak]
    | 1 => simp [insideBreak, hu, hc]
    | 2 => cases units s <;> simp [insideBreak, hv]
    | p + 3 => simp [insideBreak]

/-- An offset parts a pair exactly when it is within a wide character. -/
theorem insidePair_units_iff (s : List Char) (p : Nat) :
    insidePair (units s) p ↔
      ∃ before c after, s = before ++ c :: after ∧ width c = 2 ∧ p = unitLength before + 1 := by
  induction s generalizing p with
  | nil => cases p <;> simp [insidePair, around]
  | cons d s ih =>
    rw [units_cons, insidePair_charUnits_append, ih]
    constructor
    · rintro (⟨hd, rfl⟩ | ⟨hp, before, c, after, rfl, hc, h⟩)
      · exact ⟨[], d, s, rfl, hd, rfl⟩
      · exact ⟨d :: before, c, after, rfl, hc, by simp; omega⟩
    · rintro ⟨before, c, after, h, hc, rfl⟩
      cases before with
      | nil => simp only [List.nil_append, List.cons.injEq] at h; simp [h, hc]
      | cons e before =>
        simp only [List.cons_append, List.cons.injEq] at h
        obtain ⟨rfl, rfl⟩ := h
        exact .inr ⟨by simp; omega, before, c, after, rfl, hc, by simp; omega⟩

/-- An offset that parts no pair stands between two characters. -/
theorem exists_split {s : List Char} {p : Nat} (hp : p ≤ unitLength s) (h : ¬ insidePair (units s) p) :
    ∃ before after, s = before ++ after ∧ unitLength before = p := by
  induction s generalizing p with
  | nil => exact ⟨[], [], rfl, by simp at hp; simp [hp]⟩
  | cons c s ih =>
    rw [units_cons, insidePair_charUnits_append, not_or, not_and, not_and] at h
    rw [unitLength_cons] at hp
    by_cases hc : width c ≤ p
    · obtain ⟨before, after, rfl, hb⟩ := ih (by omega) (h.2 hc)
      exact ⟨c :: before, after, rfl, by simp; omega⟩
    · have hp0 : p = 0 := by
        rcases width_eq c with hw | hw
        · omega
        · have := h.1 hw; omega
      exact ⟨[], c :: s, rfl, by simp [hp0]⟩

/-- What stands before a text in another moves its offsets only. -/
theorem insidePair_units_append (x : List Char) (us : List Nat) (p : Nat) :
    insidePair (units x ++ us) (unitLength x + p) = insidePair us p := by
  rw [Bool.eq_iff_iff]
  induction x with
  | nil => simp
  | cons c x ih =>
    have hw := width_eq c
    rw [units_cons, List.append_assoc, insidePair_charUnits_append, unitLength_cons, ← ih,
      show width c + unitLength x + p - width c = unitLength x + p by omega]
    constructor
    · rintro (⟨hc, h⟩ | ⟨-, h⟩)
      · have hx : unitLength x + p = 0 ∨ False := by omega
        omega
      · exact h
    · intro h
      exact .inr ⟨by omega, h⟩

/-- Two offsets that part no pair cut a text into three. -/
theorem exists_split_twice {s : List Char} {a b : Nat} (hab : a ≤ b) (hb : b ≤ unitLength s)
    (ha : ¬ insidePair (units s) a) (hb' : ¬ insidePair (units s) b) :
    ∃ x y z, s = x ++ y ++ z ∧ unitLength x = a ∧ unitLength x + unitLength y = b := by
  obtain ⟨x, rest, rfl, rfl⟩ := exists_split (by omega) ha
  obtain ⟨n, rfl⟩ := Nat.exists_eq_add_of_le hab
  rw [units_append, insidePair_units_append] at hb'
  obtain ⟨y, z, rfl, rfl⟩ := exists_split (by rw [unitLength_append] at hb; omega) hb'
  exact ⟨x, y, z, (List.append_assoc ..).symm, rfl, rfl⟩

/-! ## Slices -/

theorem ofUnits?_units_append (s : List Char) (us : List Nat) :
    ofUnits? (units s ++ us) = (ofUnits? us).map (s ++ ·) := by
  induction s with
  | nil => simp
  | cons c s ih =>
    rw [units_cons, List.append_assoc, ofUnits?_charUnits_append, ih, Option.map_map]
    rfl

/-- A slice takes the units between its ends. -/
theorem slice?_eq {s : List Char} {a b : Nat} (ha : a ≤ unitLength s) (hb : b ≤ unitLength s) :
    slice? s a b = ofUnits? (((units s).take b).drop a) := by
  have index (i : Nat) (hi : i ≤ unitLength s) : boundIndex i (units s).length = i := by
    rw [length_units]; unfold boundIndex; split <;> omega
  simp only [slice?, index a ha, index b hb]

theorem take_drop_units (x y z : List Char) :
    ((units (x ++ y ++ z)).take (unitLength x + unitLength y)).drop (unitLength x) = units y := by
  rw [units_append, units_append, ← length_units x, ← length_units y, ← List.length_append,
    List.take_left, List.drop_left]

/-- Between two characters a slice is the text between them. -/
theorem slice?_split (x y z : List Char) :
    slice? (x ++ y ++ z) (unitLength x) (unitLength x + unitLength y : Nat) = some y := by
  rw [slice?_eq (by simp [unitLength_append]) (by simp [unitLength_append]),
    take_drop_units, ofUnits?_units]

theorem ofUnits?_low {v : Nat} (h : isLowSurrogate v) (us : List Nat) : ofUnits? (v :: us) = none := by
  rw [ofUnits?.eq_def]
  simp [h, not_high_of_low h]

theorem ofUnits?_high {u : Nat} (h : isHighSurrogate u) : ofUnits? [u] = none := by
  simp [ofUnits?, h]

/-- A piece that begins inside a pair begins with a low surrogate. -/
theorem slice?_start_inside {s : List Char} {a b : Nat} (hab : a < b) (hb : b ≤ unitLength s)
    (h : insidePair (units s) a) : slice? s a b = none := by
  obtain ⟨x, c, y, rfl, hc, rfl⟩ := (insidePair_units_iff s a).1 h
  obtain ⟨u, v, hcu, -, hv⟩ := charUnits_of_wide hc
  rw [slice?_eq (by omega) hb, List.drop_take]
  have hdrop : (units (x ++ c :: y)).drop (unitLength x + 1) = v :: units y := by
    rw [units_append, units_cons, hcu, ← length_units x, ← List.drop_drop, List.drop_left]
    rfl
  obtain ⟨n, hn⟩ : ∃ n, b - (unitLength x + 1) = n + 1 := ⟨b - (unitLength x + 1) - 1, by omega⟩
  rw [hdrop, hn, List.take_succ_cons]
  exact ofUnits?_low hv _

/-- A piece that begins between two characters and ends inside a pair ends with a high surrogate. -/
theorem slice?_stop_inside {s : List Char} {a b : Nat} (hab : a ≤ b) (hb : b ≤ unitLength s)
    (ha : ¬ insidePair (units s) a) (h : insidePair (units s) b) : slice? s a b = none := by
  obtain ⟨x, z, rfl, rfl⟩ := exists_split (by omega) ha
  obtain ⟨n, rfl⟩ := Nat.exists_eq_add_of_le hab
  rw [units_append, insidePair_units_append] at h
  obtain ⟨y, c, w, rfl, hc, rfl⟩ := (insidePair_units_iff z n).1 h
  obtain ⟨u, v, hcu, hu, -⟩ := charUnits_of_wide hc
  have hpiece : ((units (x ++ (y ++ c :: w))).take (unitLength x + (unitLength y + 1))).drop
      (unitLength x) = units y ++ [u] := by
    rw [List.drop_take, units_append, ← length_units x, List.drop_left,
      Nat.add_sub_cancel_left, units_append, units_cons, hcu, ← length_units y]
    simp [List.take_append, List.take_of_length_le]
  rw [slice?_eq (by omega) hb, hpiece, ofUnits?_units_append, ofUnits?_high hu]
  rfl

/-- A slice gives no text exactly when it has units and one of its ends parts a pair. -/
theorem slice?_eq_none_iff {s : List Char} {a b : Nat} (hab : a ≤ b) (hb : b ≤ unitLength s) :
    slice? s a b = none ↔ a < b ∧ (insidePair (units s) a ∨ insidePair (units s) b) := by
  constructor
  · intro h
    have hne : a ≠ b := by
      rintro rfl
      simp [slice?_eq hb hb, ofUnits?] at h
    refine ⟨by omega, Classical.byContradiction fun hcut => ?_⟩
    rw [not_or] at hcut
    obtain ⟨x, y, z, rfl, rfl, rfl⟩ := exists_split_twice hab hb hcut.1 hcut.2
    rw [slice?_split] at h
    cases h
  · rintro ⟨hlt, h⟩
    by_cases ha : insidePair (units s) a
    · exact slice?_start_inside hlt hb ha
    · exact slice?_stop_inside hab hb ha (h.resolve_left ha)

/-- The units of a slice are those between its ends. -/
theorem units_of_slice? {s t : List Char} {a b : Nat} (hab : a ≤ b) (hb : b ≤ unitLength s)
    (h : slice? s a b = some t) : units t = ((units s).take b).drop a := by
  obtain rfl | hlt := Nat.eq_or_lt_of_le hab
  · rw [slice?_eq hb hb] at h
    simp only [List.drop_take, Nat.sub_self, List.take_zero, ofUnits?, Option.some.injEq] at h ⊢
    rw [← h, units_nil]
  · have hcut : ¬ (insidePair (units s) a ∨ insidePair (units s) b) := by
      intro hcut
      rw [(slice?_eq_none_iff hab hb).2 ⟨hlt, hcut⟩] at h
      cases h
    rw [not_or] at hcut
    obtain ⟨x, y, z, rfl, rfl, rfl⟩ := exists_split_twice hab hb hcut.1 hcut.2
    rw [slice?_split, Option.some.injEq] at h
    rw [take_drop_units, h]

end LintBridge.Text
