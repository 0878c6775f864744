-- SUMMARY: Which values stand for what a settings field holds, and what is read from them.
import LintBridge.Proofs.Binary64
import LintBridge.Proofs.Result
import LintBridge.Proofs.Text.Digit
import LintBridge.Settings.Field

/-!
# Values of settings fields

For each kind of field a relation says which values stand for what. A value is read as what it stands for, and is
refused if it stands for nothing. Texts of numbers have a grammar: plain integers, and decimals with a point and an
exponent. Other forms of a number are first brought into one of these.
-/

namespace LintBridge.Settings

open Json

variable {v : Value} {s : List Char}

/-! ## Texts and truth values -/

theorem readText_eq_ok_iff {t : String} : readText v = .ok t ↔ ∃ s, v = .text s ∧ s.shown = t := by
  cases v <;> simp [readText]

theorem readChars_eq_ok_iff {text : Text.Codes} : readChars text = .ok s ↔ text = Text.Codes.ofChars s := by
  rw [← Text.Codes.chars?_eq_some_iff, readChars]
  cases text.chars? <;> simp

/-- What stands for a truth value. -/
inductive MeansTruth : Value → Bool → Prop
  | bool (b : Bool) : MeansTruth (.bool b) b
  | int (b : Bool) : MeansTruth (.int b.toInt) b
  | float {x : Binary64} {b : Bool} : x.rational? = some (b.toInt : ℚ) → MeansTruth (.float x) b
  /-- One of some words, in any case. -/
  | word {word : List Char} {b : Bool} : (String.ofList (word.map Char.toLower), b) ∈ truthWords →
      MeansTruth (.text (Text.Codes.ofChars word)) b

theorem truthOfInt_eq_ok_iff {i : Int} {b : Bool} : truthOfInt i = .ok b ↔ i = b.toInt := by
  unfold truthOfInt
  cases b <;> grind [Bool.toInt]

theorem lookup_truthWords_eq_some_iff {t : String} {b : Bool} : truthWords.lookup t = some b ↔ (t, b) ∈ truthWords := by
  constructor
  · intro h
    obtain ⟨before, after, hsplit, -⟩ := List.lookup_eq_some_iff.1 h
    rw [hsplit]
    exact List.mem_append_right _ List.mem_cons_self
  · intro h
    have hdistinct : ∀ entry ∈ truthWords, truthWords.lookup entry.1 = some entry.2 := by decide
    exact hdistinct _ h

theorem readTruth_eq_ok_iff {b : Bool} : readTruth v = .ok b ↔ MeansTruth v b := by
  constructor
  · intro h
    cases v with
    | bool b' => 
      cases h
      exact .bool b
    | int i =>
      rw [readTruth] at h
      split at h
      next => 
        cases truthOfInt_eq_ok_iff.1 h
        exact .int b
      next => cases h
    | float x =>
      rw [readTruth] at h
      split at h
      next i hi =>
        split at h
        next =>
          cases truthOfInt_eq_ok_iff.1 h
          exact .float (Binary64.toInt?_eq_some_iff.1 hi)
        next => cases h
      next => cases h
    | text s =>
      obtain ⟨word, hword, hmeans⟩ := bind_eq_ok_iff.1 h
      cases readChars_eq_ok_iff.1 hword
      split at hmeans
      next hfound =>
        cases hmeans
        exact .word (lookup_truthWords_eq_some_iff.1 hfound)
      next => cases hmeans
    | _ => cases h
  · intro h
    cases h with
    | bool => rfl
    | int b => cases b <;> rfl
    | float hx =>
      rw [← Binary64.toInt?_eq_some_iff] at hx
      rw [readTruth, hx]
      cases b <;> rfl
    | word hword =>
      refine bind_eq_ok_iff.2 ⟨_, readChars_eq_ok_iff.2 rfl, ?_⟩
      rw [lookup_truthWords_eq_some_iff.2 hword]
      rfl

/-! ## Integers -/

/-- The integer that digits write behind a sign. -/
def integerOf (negative : Bool) (digits : List Char) : Int :=
  if negative then -(Decimal.value digits : Int) else Decimal.value digits

/-- The digits of an integer: not too many, and a zero in front only alone. -/
structure PlainDigits (digits : List Char) : Prop where
  ne_nil : digits ≠ []
  isDigit : ∀ c ∈ digits, Decimal.isDigit c
  noLeadingZero : digits.head? = some '0' → digits = ['0']
  length_le : digits.length ≤ Decimal.maxDigits

/-- The plain form of an integer. -/
inductive WritesPlainly : List Char → Int → Prop
  | unsigned {digits : List Char} : PlainDigits digits → WritesPlainly digits (Decimal.value digits)
  | negative {digits : List Char} : PlainDigits digits → WritesPlainly ('-' :: digits) (-Decimal.value digits)

theorem PlainDigits.readMinus {digits : List Char} (h : PlainDigits digits) : readMinus digits = (false, digits) := by
  cases digits with
  | nil => rfl
  | cons c rest =>
    have hc : c ≠ '-' := by
      rintro rfl
      exact absurd (h.isDigit _ List.mem_cons_self) (by decide)
    unfold Settings.readMinus
    split
    next heq => exact absurd (List.cons.inj heq).1 hc
    next => rfl

theorem readMinus_eq {negative : Bool} {unsigned : List Char} (h : readMinus s = (negative, unsigned)) :
    s = if negative then '-' :: unsigned else unsigned := by
  unfold readMinus at h
  split at h <;> cases h <;> rfl

/-- A text is a run of digits if its run of digits is as long as the text. -/
theorem takeWhile_eq_self_of_length {p : Char → Bool} (h : (s.takeWhile p).length = s.length) : s.takeWhile p = s :=
  (List.takeWhile_prefix p).eq_of_length h

theorem plainInteger_of_digits {digits : List Char} {negative : Bool} (hs : readMinus s = (negative, digits))
    (h : PlainDigits digits) : plainInteger s = .ok (integerOf negative digits) := by
  have hrun : digits.takeWhile Decimal.isDigit = digits := List.takeWhile_eq_self_iff.2 h.isDigit
  simp only [plainInteger, hs, hrun]
  split
  next => exact absurd rfl h.ne_nil
  next more =>
    cases h.noLeadingZero rfl
    cases negative <;> rfl
  next =>
    rw [if_neg (Nat.not_lt.2 h.length_le), if_pos trivial]
    rfl

theorem digits_of_plainInteger {negative : Bool} {unsigned : List Char} {i : Int}
    (hs : readMinus s = (negative, unsigned)) (h : plainInteger s = .ok i) :
    PlainDigits unsigned ∧ i = integerOf negative unsigned := by
  have hrun : ∀ c ∈ unsigned.takeWhile Decimal.isDigit, Decimal.isDigit c := fun c hc => List.mem_takeWhile_imp hc
  simp only [plainInteger, hs] at h
  split at h
  next => cases h
  next more hdigits =>
    -- A zero in front is the whole text.
    split at h
    next hzero =>
      cases h
      rw [takeWhile_eq_self_of_length hzero.2, List.isEmpty_iff.1 hzero.1] at hdigits
      subst hdigits
      exact ⟨⟨by decide, List.forall_mem_singleton.2 (by decide), fun _ => rfl, by decide⟩, by cases negative <;> rfl⟩
    next => cases h
  next hnil hzero =>
    split at h
    next => cases h
    next hlength =>
      split at h
      next hcomplete =>
        cases h
        rw [takeWhile_eq_self_of_length hcomplete] at hrun hnil hzero hlength
        rw [takeWhile_eq_self_of_length hcomplete]
        refine ⟨⟨hnil, hrun, fun hhead => ?_, Nat.not_lt.1 hlength⟩, rfl⟩
        obtain ⟨more, hmore⟩ := List.head?_eq_some_iff.1 hhead
        exact absurd hmore (hzero more)
      next => cases h

theorem plainInteger_eq_ok_iff {i : Int} : plainInteger s = .ok i ↔ WritesPlainly s i := by
  constructor
  · intro h
    rcases hs : readMinus s with ⟨negative, unsigned⟩
    obtain ⟨hplain, rfl⟩ := digits_of_plainInteger hs h
    rw [readMinus_eq hs]
    cases negative with
    | false => exact .unsigned hplain
    | true => exact .negative hplain
  · intro h
    cases h with
    | unsigned h => exact plainInteger_of_digits h.readMinus h
    | negative h => exact plainInteger_of_digits rfl h

/-- Another form is looked for in a text that is no plain integer, not in one with too many digits. -/
theorem integerOfText_eq_ok_iff {i : Int} :
    integerOfText s = .ok i ↔
      WritesPlainly s i ∨
        plainInteger s = .error .intUnreadable ∧ ∃ plain, plainForm? s = some plain ∧ WritesPlainly plain i := by
  simp only [← plainInteger_eq_ok_iff]
  unfold integerOfText
  split
  next hunreadable =>
    cases hform : plainForm? s with
    | none => simp [hunreadable]
    | some plain => cases hplain : plainInteger plain <;> simp [hunreadable, hplain]
  next hreadable =>
    constructor
    · exact .inl
    · rintro (h | ⟨hunreadable, -⟩)
      · exact h
      · exact absurd hunreadable hreadable

/-- What stands for an integer. -/
inductive MeansInteger : Value → Int → Prop
  | bool (b : Bool) : MeansInteger (.bool b) b.toInt
  | int (i : Int) : MeansInteger (.int i) i
  | float {x : Binary64} {i : Int} : x.rational? = some (i : ℚ) → -wordBound < i → i < wordBound →
      MeansInteger (.float x) i
  | text {word : List Char} {i : Int} : integerOfText word = .ok i → MeansInteger (.text (Text.Codes.ofChars word)) i

theorem readInteger_eq_ok_iff {i : Int} : readInteger v = .ok i ↔ MeansInteger v i := by
  constructor
  · intro h
    cases v with
    | bool b =>
      cases h
      cases b with
      | false => exact .bool false
      | true => exact .bool true
    | int i =>
      cases h
      exact .int i
    | float x =>
      cases x with
      | finite negative mantissa exponent =>
        simp only [readInteger] at h
        split at h
        next whole hwhole =>
          split at h
          next hword =>
            cases h
            exact .float (Binary64.toInt?_eq_some_iff.1 hwhole) hword.1 hword.2
          next => cases h
        next => cases h
      | _ => cases h
    | text codes =>
      obtain ⟨word, hword, hinteger⟩ := bind_eq_ok_iff.1 h
      cases readChars_eq_ok_iff.1 hword
      exact .text hinteger
    | _ => cases h
  · intro h
    cases h with
    | bool b => cases b <;> rfl
    | int => rfl
    | @float x _ hx hlow hhigh =>
      have hwhole := Binary64.toInt?_eq_some_iff.2 hx
      cases x with
      | finite negative mantissa exponent =>
        simp only [readInteger, hwhole]
        rw [if_pos ⟨hlow, hhigh⟩]
      | _ => cases hx
    | text hinteger => exact bind_eq_ok_iff.2 ⟨_, readChars_eq_ok_iff.2 rfl, hinteger⟩

theorem readPositive_eq_ok_iff {n : Nat} : readPositive v = .ok n ↔ MeansInteger v n ∧ 1 ≤ n := by
  rw [readPositive, bind_eq_ok_iff, ← readInteger_eq_ok_iff]
  constructor
  · rintro ⟨i, hi, h⟩
    split at h
    next hpositive =>
      cases h
      rw [Int.toNat_of_nonneg (by omega)]
      exact ⟨hi, by omega⟩
    next => cases h
  · rintro ⟨hn, hpositive⟩
    refine ⟨n, hn, ?_⟩
    rw [if_pos (by exact_mod_cast hpositive)]
    rfl

/-! ## Numbers -/

/-- A sign; true stands for minus. -/
inductive WritesSign : List Char → Bool → Prop
  | none : WritesSign [] false
  | plus : WritesSign ['+'] false
  | minus : WritesSign ['-'] true

/-- An exponent; nothing stands for zero. -/
inductive WritesExponent : List Char → Int → Prop
  | none : WritesExponent [] 0
  | some {mark : Char} {sign digits : List Char} {negative : Bool} :
      mark = 'e' ∨ mark = 'E' → WritesSign sign negative → digits ≠ [] → (∀ c ∈ digits, Decimal.isDigit c) →
      WritesExponent (mark :: (sign ++ digits)) (integerOf negative digits)

/-- A point with digits behind it, or nothing. -/
def Points (pointed fraction : List Char) : Prop := pointed = '.' :: fraction ∨ pointed = [] ∧ fraction = []

/-- A number without its sign: a word in any case, or digits, of which some may stand behind a point, and an
exponent. -/
inductive WritesUnsigned (negative : Bool) : List Char → Binary64 → Prop
  | infinity {word : List Char} : String.ofList (word.map Char.toLower) ∈ ["inf", "infinity"] →
      WritesUnsigned negative word (.infinite negative)
  | nan {word : List Char} : String.ofList (word.map Char.toLower) = "nan" → WritesUnsigned negative word .nan
  | decimal {whole pointed fraction exponentText : List Char} {exponent : Int} :
      (∀ c ∈ whole ++ fraction, Decimal.isDigit c) → whole ++ fraction ≠ [] →
      Points pointed fraction → WritesExponent exponentText exponent →
      WritesUnsigned negative (whole ++ (pointed ++ exponentText))
        (.ofDecimal negative (Decimal.value (whole ++ fraction)) (exponent - fraction.length))

/-- A number with its sign. -/
inductive WritesNumber : List Char → Binary64 → Prop
  | intro {sign unsigned : List Char} {negative : Bool} {x : Binary64} : WritesSign sign negative →
      WritesUnsigned negative unsigned x → WritesNumber (sign ++ unsigned) x

/-- No sign stands at the beginning of a text. -/
def Unsigned (s : List Char) : Prop := ∀ c, s.head? = some c → c ≠ '+' ∧ c ≠ '-'

theorem exists_sign (s : List Char) : ∃ sign, WritesSign sign (readSign s).1 ∧ s = sign ++ (readSign s).2 := by
  unfold readSign
  split
  · exact ⟨_, .minus, rfl⟩
  · exact ⟨_, .plus, rfl⟩
  · exact ⟨_, .none, rfl⟩

theorem readSign_append {sign rest : List Char} {negative : Bool} (hsign : WritesSign sign negative)
    (hrest : Unsigned rest) : readSign (sign ++ rest) = (negative, rest) := by
  cases hsign with
  | plus => rfl
  | minus => rfl
  | none =>
    rw [List.nil_append]
    unfold readSign
    split
    next => exact absurd rfl (hrest '-' rfl).2
    next => exact absurd rfl (hrest '+' rfl).1
    next => rfl

theorem unsigned_of_digits {digits : List Char} (h : ∀ c ∈ digits, Decimal.isDigit c) : Unsigned digits := by
  intro c hc
  have hdigit := h c (List.mem_of_mem_head? hc)
  constructor
  · rintro rfl
    exact absurd hdigit (by decide)
  · rintro rfl
    exact absurd hdigit (by decide)

theorem exponentOfText?_cons {mark : Char} {rest : List Char} {e : Int} :
    exponentOfText? (mark :: rest) = some e ↔
      (mark = 'e' ∨ mark = 'E') ∧ ((readSign rest).2 ≠ [] ∧ ∀ c ∈ (readSign rest).2, Decimal.isDigit c) ∧
        e = integerOf (readSign rest).1 (readSign rest).2 := by
  simp only [exponentOfText?, guard_bind_eq_some_iff, Option.pure_def, Option.some.injEq, Bool.or_eq_true, beq_iff_eq,
    Bool.and_eq_true, Bool.not_eq_true', List.isEmpty_eq_false_iff, List.all_eq_true, integerOf, eq_comm (a := e)]

theorem exponentOfText?_eq_some_iff {e : Int} : exponentOfText? s = some e ↔ WritesExponent s e := by
  constructor
  · intro h
    cases s with
    | nil =>
      cases h
      exact .none
    | cons mark rest =>
      obtain ⟨sign, hsign, hrest⟩ := exists_sign rest
      obtain ⟨hmark, ⟨hne, hdigits⟩, rfl⟩ := exponentOfText?_cons.1 h
      have hwrites := WritesExponent.some hmark hsign hne hdigits
      rwa [← hrest] at hwrites
  · intro h
    cases h with
    | none => rfl
    | some hmark hsign hne hdigits =>
      rw [exponentOfText?_cons, readSign_append hsign (unsigned_of_digits hdigits)]
      exact ⟨hmark, ⟨hne, hdigits⟩, rfl⟩

/-- Neither a digit nor a point begins an exponent. -/
theorem head_of_writesExponent {e : Int} (h : WritesExponent s e) :
    ∀ c, s.head? = some c → ¬Decimal.isDigit c ∧ c ≠ '.' := by
  intro c hc
  cases h with
  | none => cases hc
  | some hmark =>
    cases hc
    rcases hmark with rfl | rfl <;> decide

/-- What begins before the letters is no word. -/
theorem ne_word_of_head {word : String} (hs : ∀ c, s.head? = some c → c.toNat < 65)
    (hword : word.toList.head?.any (65 ≤ ·.toNat)) : String.ofList (s.map Char.toLower) ≠ word := by
  rintro rfl
  rw [String.toList_ofList, List.head?_map, Option.any_eq_true] at hword
  obtain ⟨lower, hlower, hletter⟩ := hword
  obtain ⟨c, hc, rfl⟩ := Option.map_eq_some_iff.1 hlower
  have hsmall := hs c hc
  rw [decide_eq_true_eq] at hletter
  rw [Text.toLower_of_not_upper (.inl hsmall)] at hletter
  omega

/-- The digits behind a point at the beginning of a text, and what follows them. -/
def behindPoint (s : List Char) : List Char × List Char :=
  match s with
  | '.' :: rest => (rest.takeWhile Decimal.isDigit, rest.dropWhile Decimal.isDigit)
  | _ => ([], s)

theorem exists_points {rest fraction after : List Char} (h : behindPoint rest = (fraction, after)) :
    ∃ pointed, Points pointed fraction ∧ rest = pointed ++ after ∧ ∀ c ∈ fraction, Decimal.isDigit c := by
  unfold behindPoint at h
  split at h
  next rest =>
    cases h
    refine ⟨_, .inl rfl, ?_, fun c hc => List.mem_takeWhile_imp hc⟩
    rw [List.cons_append, List.takeWhile_append_dropWhile]
  next =>
    cases h
    exact ⟨[], .inr ⟨rfl, rfl⟩, rfl, by simp⟩

theorem behindPoint_append {pointed fraction rest : List Char} (h : Points pointed fraction)
    (hdigits : ∀ c ∈ fraction, Decimal.isDigit c) (hrest : ∀ c, rest.head? = some c → ¬Decimal.isDigit c ∧ c ≠ '.') :
    behindPoint (pointed ++ rest) = (fraction, rest) := by
  rcases h with rfl | ⟨rfl, rfl⟩
  · have hstops : Text.Stops Decimal.isDigit rest := fun c hc => (hrest c hc).1
    rw [List.cons_append, behindPoint, Text.takeWhile_append_of_stops hdigits hstops,
      Text.dropWhile_append_of_stops hdigits hstops]
  · rw [List.nil_append]
    unfold behindPoint
    split
    next => exact absurd rfl (hrest '.' rfl).2
    next => rfl

theorem unsignedOfText?_of_not_word {negative : Bool} {x : Binary64} {fraction rest : List Char}
    (hword : ∀ word ∈ ["inf", "infinity", "nan"], String.ofList (s.map Char.toLower) ≠ word)
    (hbehind : behindPoint (s.dropWhile Decimal.isDigit) = (fraction, rest)) :
    unsignedOfText? negative s = some x ↔
      s.takeWhile Decimal.isDigit ++ fraction ≠ [] ∧ ∃ exponent, exponentOfText? rest = some exponent ∧
        x = .ofDecimal negative (Decimal.value (s.takeWhile Decimal.isDigit ++ fraction))
          (exponent - fraction.length) := by
  unfold unsignedOfText?
  split
  next h => exact absurd h (hword _ (by simp))
  next h => exact absurd h (hword _ (by simp))
  next h => exact absurd h (hword _ (by simp))
  next =>
    obtain ⟨rfl, rfl⟩ := Prod.ext_iff.1 hbehind
    simp only [guard_bind_eq_some_iff]
    simp only [Option.bind_eq_bind, Option.bind_eq_some_iff, Option.pure_def, Option.some.injEq, Bool.not_eq_true',
      List.isEmpty_eq_false_iff, eq_comm (a := x)]
    exact Iff.rfl

/-- The words that stand for numbers. -/
theorem word_or_not (s : List Char) :
    String.ofList (s.map Char.toLower) ∈ ["inf", "infinity"] ∨ String.ofList (s.map Char.toLower) = "nan" ∨
      ∀ word ∈ ["inf", "infinity", "nan"], String.ofList (s.map Char.toLower) ≠ word := by
  grind

theorem unsignedOfText?_infinity {negative : Bool} (h : String.ofList (s.map Char.toLower) ∈ ["inf", "infinity"]) :
    unsignedOfText? negative s = some (.infinite negative) := by
  simp only [List.mem_cons, List.not_mem_nil, or_false] at h
  rcases h with h | h <;> simp only [unsignedOfText?, h]

theorem unsignedOfText?_nan {negative : Bool} (h : String.ofList (s.map Char.toLower) = "nan") :
    unsignedOfText? negative s = some .nan := by
  simp only [unsignedOfText?, h]

theorem head_of_decimal {whole pointed fraction exponentText : List Char} (hdigits : ∀ c ∈ whole, Decimal.isDigit c)
    (hpoints : Points pointed fraction) (hne : whole ++ fraction ≠ []) :
    ∀ c, (whole ++ (pointed ++ exponentText)).head? = some c → c = '.' ∨ Decimal.isDigit c := by
  intro c hc
  cases whole with
  | cons d whole =>
    cases hc
    exact .inr (hdigits _ List.mem_cons_self)
  | nil =>
    rcases hpoints with rfl | ⟨rfl, rfl⟩
    · cases hc
      exact .inl rfl
    · exact absurd rfl hne

theorem unsignedOfText?_eq_some_iff {negative : Bool} {x : Binary64} :
    unsignedOfText? negative s = some x ↔ WritesUnsigned negative s x := by
  constructor
  · intro h
    rcases word_or_not s with hword | hword | hword
    · cases (unsignedOfText?_infinity hword).symm.trans h
      exact .infinity hword
    · cases (unsignedOfText?_nan hword).symm.trans h
      exact .nan hword
    · rcases hbehind : behindPoint (s.dropWhile Decimal.isDigit) with ⟨fraction, rest⟩
      obtain ⟨hne, exponent, hexponent, rfl⟩ := (unsignedOfText?_of_not_word hword hbehind).1 h
      obtain ⟨pointed, hpoints, hrest, hfraction⟩ := exists_points hbehind
      have hwhole : ∀ c ∈ s.takeWhile Decimal.isDigit, Decimal.isDigit c := fun c hc => List.mem_takeWhile_imp hc
      have hwrites : WritesUnsigned negative _ _ := .decimal (List.forall_mem_append.2 ⟨hwhole, hfraction⟩) hne hpoints
        (exponentOfText?_eq_some_iff.1 hexponent)
      rwa [← hrest, List.takeWhile_append_dropWhile] at hwrites
  · intro h
    cases h with
    | infinity hword => exact unsignedOfText?_infinity hword
    | nan hword => exact unsignedOfText?_nan hword
    | @decimal whole pointed fraction exponentText exponent hdigits hne hpoints hexponent =>
      have hhead := head_of_writesExponent hexponent
      obtain ⟨hwhole, hfraction⟩ := List.forall_mem_append.1 hdigits
      have hstops : Text.Stops Decimal.isDigit (pointed ++ exponentText) := by
        rcases hpoints with rfl | ⟨rfl, -⟩
        · exact Text.stops_cons (by decide)
        · exact fun c hc => (hhead c hc).1
      have hbehind :
          behindPoint ((whole ++ (pointed ++ exponentText)).dropWhile Decimal.isDigit) = (fraction, exponentText) := by
        rw [Text.dropWhile_append_of_stops hwhole hstops, behindPoint_append hpoints hfraction hhead]
      rw [unsignedOfText?_of_not_word ?_ hbehind, Text.takeWhile_append_of_stops hwhole hstops]
      · exact ⟨hne, exponent, exponentOfText?_eq_some_iff.2 hexponent, rfl⟩
      · -- A decimal begins with a digit or a point, and no word does.
        have hfirst : ∀ c, (whole ++ (pointed ++ exponentText)).head? = some c → c.toNat < 65 := by
          intro c hc
          rcases head_of_decimal hwhole hpoints hne c hc with rfl | hdigit
          · decide
          · have := Text.isDigit_iff.1 hdigit
            omega
        intro word hword
        refine ne_word_of_head hfirst ?_
        revert word
        decide

/-- A word begins with a letter. -/
theorem unsigned_of_word {word : String} (h : String.ofList (s.map Char.toLower) = word)
    (hword : word.toList.head?.all fun c => c ≠ '+' && c ≠ '-') : Unsigned s := by
  subst h
  intro c hc
  rw [String.toList_ofList, List.head?_map, hc] at hword
  have hsign : c.toLower ≠ '+' ∧ c.toLower ≠ '-' := by simpa using hword
  constructor
  · rintro rfl
    exact hsign.1 (by decide)
  · rintro rfl
    exact hsign.2 (by decide)

theorem unsigned_of_writesUnsigned {negative : Bool} {x : Binary64} (h : WritesUnsigned negative s x) : Unsigned s := by
  cases h with
  | infinity hword =>
    refine unsigned_of_word rfl ?_
    revert hword
    generalize String.ofList (s.map Char.toLower) = word
    revert word
    decide
  | nan hword => exact unsigned_of_word hword (by decide)
  | decimal hdigits hne hpoints =>
    intro c hc
    rcases head_of_decimal (fun c hc => hdigits c (List.mem_append_left _ hc)) hpoints hne c hc with rfl | hdigit
    · decide
    · exact unsigned_of_digits (List.forall_mem_singleton.2 hdigit) c rfl

theorem signedOfText?_eq_some_iff {x : Binary64} : signedOfText? s = some x ↔ WritesNumber s x := by
  constructor
  · intro h
    obtain ⟨sign, hsign, hs⟩ := exists_sign s
    rw [hs]
    exact .intro hsign (unsignedOfText?_eq_some_iff.1 h)
  · rintro ⟨hsign, hunsigned⟩
    rw [signedOfText?, readSign_append hsign (unsigned_of_writesUnsigned hunsigned)]
    exact unsignedOfText?_eq_some_iff.2 hunsigned

/-- Blanks may stand around a number. If there is none between them, underscores are left out instead. -/
theorem numberOfText?_eq_some_iff {x : Binary64} :
    numberOfText? s = some x ↔
      WritesNumber (Text.trim Text.isSpace s) x ∨
        (¬∃ y, WritesNumber (Text.trim Text.isSpace s) y) ∧
          ∃ plain, dropUnderscores? s = some plain ∧ WritesNumber plain x := by
  simp only [← signedOfText?_eq_some_iff, numberOfText?]
  cases signedOfText? (Text.trim Text.isSpace s) with
  | none => simp [Option.bind_eq_some_iff]
  | some y => simp

/-- What stands for a number. -/
inductive MeansNumber : Value → Binary64 → Prop
  | bool (b : Bool) : MeansNumber (.bool b) (.ofRatio false b.toNat 1)
  | int {i : Int} {x : Binary64} : Binary64.ofInt? i = some x → MeansNumber (.int i) x
  | float (x : Binary64) : MeansNumber (.float x) x
  | text {word : List Char} {x : Binary64} : numberOfText? word = some x →
      MeansNumber (.text (Text.Codes.ofChars word)) x

theorem readNumber_eq_ok_iff {x : Binary64} : readNumber v = .ok x ↔ MeansNumber v x := by
  constructor
  · intro h
    cases v with
    | bool b =>
      cases h
      cases b with
      | false => exact .bool false
      | true => exact .bool true
    | int i =>
      rw [readNumber] at h
      split at h
      next hrounded =>
        cases h
        exact .int hrounded
      next => cases h
    | float y =>
      cases h
      exact .float x
    | text codes =>
      obtain ⟨word, hword, hmeans⟩ := bind_eq_ok_iff.1 h
      cases readChars_eq_ok_iff.1 hword
      split at hmeans
      next hfound =>
        cases hmeans
        exact .text hfound
      next => cases hmeans
    | _ => cases h
  · intro h
    cases h with
    | bool b => cases b <;> rfl
    | int hrounded => simp only [readNumber, hrounded]
    | float => rfl
    | text hfound =>
      refine bind_eq_ok_iff.2 ⟨_, readChars_eq_ok_iff.2 rfl, ?_⟩
      rw [hfound]
      rfl

theorem readTimeout_eq_ok_iff {timeout : Option Binary64} :
    readTimeout v = .ok timeout ↔
      v = .null ∧ timeout = none ∨ ∃ x, timeout = some x ∧ MeansNumber v x ∧ x.isPositive := by
  constructor
  · intro h
    unfold readTimeout at h
    split at h
    next =>
      cases h
      exact .inl ⟨rfl, rfl⟩
    next =>
      obtain ⟨x, hread, hbound⟩ := bind_eq_ok_iff.1 h
      split at hbound
      next hpositive =>
        cases hbound
        exact .inr ⟨x, rfl, readNumber_eq_ok_iff.1 hread, hpositive⟩
      next => cases hbound
  · rintro (⟨rfl, rfl⟩ | ⟨x, rfl, hmeans, hpositive⟩)
    · rfl
    · unfold readTimeout
      split
      next => cases hmeans
      next =>
        refine bind_eq_ok_iff.2 ⟨x, readNumber_eq_ok_iff.2 hmeans, ?_⟩
        rw [if_pos hpositive]
        rfl

end LintBridge.Settings
