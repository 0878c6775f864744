-- SUMMARY: UTF-16 code units of a text, their strict reading, and the slice between two unit offsets.

/-!
# UTF-16 units

Editors and the linting library count a text in UTF-16 code units. `units` writes a text
as units, `ofUnits?` reads units back and refuses a surrogate that has lost its partner, and
`slice?` cuts a text between two unit offsets. Units are kept as numbers below `0x10000`.
-/

namespace LintBridge.Text

/-! ## Writing -/

/-- The number of units of a character: two above the basic plane. -/
def width (c : Char) : Nat := if c.toNat < 0x10000 then 1 else 2

/-- The units of a character: the character itself, or a high and a low surrogate. -/
def charUnits (c : Char) : List Nat :=
  if c.toNat < 0x10000 then [c.toNat]
  else [0xD800 + (c.toNat - 0x10000) / 0x400, 0xDC00 + (c.toNat - 0x10000) % 0x400]

/-- The units of a text, in order. -/
def units (s : List Char) : List Nat := s.flatMap charUnits

/-- The length of a text in units. -/
def unitLength : List Char → Nat
  | [] => 0
  | c :: rest => width c + unitLength rest

@[simp] theorem units_nil : units [] = [] := rfl

@[simp] theorem units_cons (c : Char) (s : List Char) : units (c :: s) = charUnits c ++ units s := rfl

theorem units_append (s t : List Char) : units (s ++ t) = units s ++ units t := by
  simp [units]

@[simp] theorem unitLength_nil : unitLength [] = 0 := rfl

@[simp] theorem unitLength_cons (c : Char) (s : List Char) :
    unitLength (c :: s) = width c + unitLength s := rfl

theorem unitLength_append (s t : List Char) : unitLength (s ++ t) = unitLength s + unitLength t := by
  induction s with
  | nil => simp
  | cons c rest ih => rw [List.cons_append, unitLength_cons, unitLength_cons, ih, Nat.add_assoc]

theorem length_charUnits (c : Char) : (charUnits c).length = width c := by
  unfold charUnits width; split <;> rfl

theorem length_units (s : List Char) : (units s).length = unitLength s := by
  induction s with
  | nil => rfl
  | cons c r ih => simp [length_charUnits, ih]

/-! ## Reading -/

def isHighSurrogate (u : Nat) : Bool := 0xD800 ≤ u && u < 0xDC00

def isLowSurrogate (u : Nat) : Bool := 0xDC00 ≤ u && u < 0xE000

/-- The character that a high and a low surrogate write together. -/
def joinSurrogates (high low : Nat) : Char :=
  Char.ofNat (0x10000 + (high - 0xD800) * 0x400 + (low - 0xDC00))

/-- The text that units write; `none` when a surrogate stands without its partner. -/
def ofUnits? : List Nat → Option (List Char)
  | [] => some []
  | u :: rest =>
    if isHighSurrogate u then
      match rest with
      | v :: rest => if isLowSurrogate v then (ofUnits? rest).map (joinSurrogates u v :: ·) else none
      | [] => none
    else if isLowSurrogate u then none
    else (ofUnits? rest).map (Char.ofNat u :: ·)

/-- A character is no surrogate, and lies in one of seventeen planes. -/
theorem toNat_valid (c : Char) :
    c.toNat < 0xD800 ∨ 0xDFFF < c.toNat ∧ c.toNat < 0x110000 := c.valid

theorem joinSurrogates_split (c : Char) (h : ¬ c.toNat < 0x10000) :
    joinSurrogates (0xD800 + (c.toNat - 0x10000) / 0x400) (0xDC00 + (c.toNat - 0x10000) % 0x400)
      = c := by
  have hn : 0x10000 + (0xD800 + (c.toNat - 0x10000) / 0x400 - 0xD800) * 0x400 +
      (0xDC00 + (c.toNat - 0x10000) % 0x400 - 0xDC00) = c.toNat := by omega
  rw [joinSurrogates, hn, Char.ofNat_toNat]

/-- A character is no surrogate. -/
theorem not_isSurrogate (c : Char) : isHighSurrogate c.toNat = false ∧ isLowSurrogate c.toNat = false := by
  have hvalid := toNat_valid c
  simp only [isHighSurrogate, isLowSurrogate, Bool.and_eq_false_iff, decide_eq_false_iff_not]
  omega

/-- A character is its own unit, or is written by two surrogates that it is joined from. -/
theorem charUnits_cases (c : Char) :
    width c = 1 ∧ charUnits c = [c.toNat] ∨
      ∃ u v, width c = 2 ∧ charUnits c = [u, v] ∧ isHighSurrogate u ∧ isLowSurrogate v ∧
        joinSurrogates u v = c := by
  have hvalid := toNat_valid c
  unfold width charUnits
  split
  next => exact .inl ⟨rfl, rfl⟩
  next hwide =>
    refine .inr ⟨_, _, rfl, rfl, ?_, ?_, joinSurrogates_split c hwide⟩
    · simp only [isHighSurrogate, Bool.and_eq_true, decide_eq_true_eq]
      omega
    · simp only [isLowSurrogate, Bool.and_eq_true, decide_eq_true_eq]
      omega

/-- The units of a character are read back as that character. -/
theorem ofUnits?_charUnits_append (c : Char) (us : List Nat) :
    ofUnits? (charUnits c ++ us) = (ofUnits? us).map (c :: ·) := by
  rcases charUnits_cases c with ⟨-, hc⟩ | ⟨u, v, -, hc, hhigh, hlow, hjoin⟩
  · obtain ⟨hhigh, hlow⟩ := not_isSurrogate c
    rw [hc, List.singleton_append, ofUnits?.eq_def]
    simp [hhigh, hlow]
  · simp [hc, ofUnits?, hhigh, hlow, hjoin]

/-- The units of a text are read back as that text. -/
theorem ofUnits?_units (s : List Char) : ofUnits? (units s) = some s := by
  induction s with
  | nil => rfl
  | cons c rest ih =>
    rw [units_cons, ofUnits?_charUnits_append, ih]
    rfl

/-! ## Slicing -/

/-- The index that `i` names in a sequence of length `n`: a negative one counts from the end,
and one out of range goes to the nearest bound. -/
def boundIndex (i : Int) (n : Nat) : Nat := if i < 0 then (i + n).toNat else min i.toNat n

/-- The text between two unit offsets; `none` when a cut parts a surrogate pair. -/
def slice? (s : List Char) (start stop : Int) : Option (List Char) :=
  let us := units s
  ofUnits? ((us.take (boundIndex stop us.length)).drop (boundIndex start us.length))

/-- The slice from one end of a text to the other is the text. -/
theorem slice?_full (s : List Char) : slice? s 0 (unitLength s) = some s := by
  have h : boundIndex (unitLength s) (units s).length = (units s).length := by
    rw [length_units]; unfold boundIndex; split <;> omega
  simp only [slice?, h, List.take_length]
  exact ofUnits?_units s

end LintBridge.Text
