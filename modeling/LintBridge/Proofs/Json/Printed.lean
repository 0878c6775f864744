-- SUMMARY: A printed value is ASCII, and reading it gives the value back.
import LintBridge.Json.Printer
import LintBridge.Json.Reader
import LintBridge.Proofs.Text.Digit

/-!
# Printed values

Strings are printed by their UTF-16 units: each character is written by itself, by a short escape or by the escapes
of its units, and the reader of strings takes these units back, whatever stands behind the closing quote. So a value
that holds no numbers is read back from its text, if no object has a key twice and not too many lists and objects are
within each other.
-/

namespace LintBridge

open Text

theorem Hex.digit?_lower {d : Nat} (h : d < 16) : digit? (Nat.digitChar d) = some d := by
  revert d
  decide

namespace Json

variable {opened : Nat} {s rest : List Char} {numbers : List Nat}

/-! ## Characters of strings -/

/-- The reader takes the escape of a unit as that unit, if the text goes on. -/
theorem readNumbers_unitEscape {u : Nat} (hu : u < 0x10000) (h : readNumbers opened s = .ok (numbers, rest)) :
    readNumbers opened (unitEscape u ++ s) = .ok (u :: numbers, rest) := by
  cases s with
  | nil => cases h
  | cons next s =>
    have hhex : hex4? (Nat.digitChar (u / 16 / 16 / 16 % 16)) (Nat.digitChar (u / 16 / 16 % 16))
        (Nat.digitChar (u / 16 % 16)) (Nat.digitChar (u % 16)) = some u := by
      have hdigit (n : Nat) : Hex.digit? (Nat.digitChar (n % 16)) = some (n % 16) :=
        Hex.digit?_lower (Nat.mod_lt n (by decide))
      simp only [hex4?, hdigit, Option.bind_eq_bind, Option.bind_some, Option.pure_def, Option.some.injEq]
      omega
    simp only [unitEscape, Hex.lower, List.nil_append, List.cons_append, readNumbers, hhex, h]
    rfl

/-- The reader takes a short escape as the character that it stands for. -/
theorem readNumbers_simpleEscape {c e : Char} (hc : c ≠ 'u') (he : simpleEscape? c = some e)
    (h : readNumbers opened s = .ok (numbers, rest)) :
    readNumbers opened ('\\' :: c :: s) = .ok (e.toNat :: numbers, rest) := by
  rw [readNumbers]
  · simp only [if_neg hc, he, h]
    rfl
  · rintro a b c d next rest ⟨⟩
    exact absurd rfl hc

/-- The reader takes any other character from the space on as itself. -/
theorem readNumbers_plain {c : Char} (hquote : c ≠ '"') (hbackslash : c ≠ '\\') (hc : 0x20 ≤ c.toNat)
    (h : readNumbers opened s = .ok (numbers, rest)) :
    readNumbers opened (c :: s) = .ok (c.toNat :: numbers, rest) := by
  rw [readNumbers]
  · simp only [if_neg (Nat.not_lt.2 hc), h]
    rfl
  · exact hquote
  · exact fun hc => absurd hc hbackslash
  · exact fun _ _ _ _ _ _ hc => absurd hc hbackslash
  · exact fun _ _ hc => absurd hc hbackslash

theorem charUnits_lt (c : Char) : ∀ u ∈ charUnits c, u < 0x10000 := by
  unfold charUnits
  have hvalid := toNat_valid c
  split <;> simp <;> omega

theorem readNumbers_unitEscapes {us : List Nat} (hus : ∀ u ∈ us, u < 0x10000)
    (h : readNumbers opened s = .ok (numbers, rest)) :
    readNumbers opened (us.flatMap unitEscape ++ s) = .ok (us ++ numbers, rest) := by
  induction us with
  | nil => exact h
  | cons u us ih =>
    rw [List.forall_mem_cons] at hus
    rw [List.flatMap_cons, List.append_assoc]
    exact readNumbers_unitEscape hus.1 (ih hus.2)

/-- A printed character is read as its units. -/
theorem readNumbers_printChar (c : Char) (h : readNumbers opened s = .ok (numbers, rest)) :
    readNumbers opened (printChar c ++ s) = .ok (charUnits c ++ numbers, rest) := by
  unfold printChar
  split_ifs with hquote hbackslash hlf hcr htab hbackspace hff hplain
  · subst hquote
    exact readNumbers_simpleEscape (by decide) rfl h
  · subst hbackslash
    exact readNumbers_simpleEscape (by decide) rfl h
  · subst hlf
    exact readNumbers_simpleEscape (by decide) rfl h
  · subst hcr
    exact readNumbers_simpleEscape (by decide) rfl h
  · subst htab
    exact readNumbers_simpleEscape (by decide) rfl h
  · subst hbackspace
    exact readNumbers_simpleEscape (by decide) rfl h
  · subst hff
    exact readNumbers_simpleEscape (by decide) rfl h
  · rw [charUnits, if_pos (Nat.lt_trans hplain.2 (by decide))]
    exact readNumbers_plain hquote hbackslash hplain.1 h
  · exact readNumbers_unitEscapes (charUnits_lt c) h

/-- A printed string is read as its units, up to the closing quote. -/
theorem readNumbers_printed (opened : Nat) (s : Codes) (rest : List Char) :
    readNumbers opened (s.flatMap printCode ++ '"' :: rest) = .ok (s.units, rest) := by
  induction s with
  | nil => rfl
  | cons c s ih =>
    rw [List.flatMap_cons, List.append_assoc]
    cases c with
    | char c => exact readNumbers_printChar c ih
    | lone u => exact readNumbers_unitEscape (Nat.lt_trans u.isSurrogate.2 (by decide)) ih

/-! ## Strings -/

theorem ofNat_toNat (c : Char) : Code.ofNat c.toNat = .char c := by
  have hvalid := toNat_valid c
  rw [Code.ofNat, dif_neg (by omega), Char.ofNat_toNat]

/-- The units of a character stand for that character, whatever numbers follow. -/
theorem ofNumbers_charUnits_append (c : Char) (numbers : List Nat) :
    ofNumbers (charUnits c ++ numbers) = .char c :: ofNumbers numbers := by
  rcases charUnits_cases c with ⟨-, hc⟩ | ⟨u, v, -, hc, hhigh, hlow, hjoin⟩
  · have hhigh := (not_isSurrogate c).1
    have hchar := ofNat_toNat c
    rw [hc, List.singleton_append]
    cases numbers with
    | nil => simp [ofNumbers, hchar]
    | cons v numbers => simp [ofNumbers, hhigh, hchar]
  · simp [hc, ofNumbers, hhigh, hlow, hjoin]

theorem ofNumbers_units (s : List Char) : ofNumbers (units s) = .ofChars s := by
  induction s with
  | nil => rfl
  | cons c s ih => rw [units_cons, ofNumbers_charUnits_append, ih, Codes.ofChars_cons]

/-- A printed string of characters is read back. -/
theorem readString_printed (opened : Nat) {s : Codes} (h : s.Whole) (rest : List Char) :
    readString opened (s.flatMap printCode ++ '"' :: rest) = .ok (s, rest) := by
  obtain ⟨s, rfl⟩ := h
  simp only [readString, readNumbers_printed, Codes.units_ofChars]
  exact congrArg (fun s => Except.ok (s, rest)) (ofNumbers_units s)

/-! ## Values without numbers -/

/-- A value that holds no numbers, with at most so many lists and objects within each other, and each key of an object
once. Its texts and keys are all characters. -/
inductive Numberless : Nat → Value → Prop
  | null {depth : Nat} : Numberless depth .null
  | bool {depth : Nat} (b : Bool) : Numberless depth (.bool b)
  | text {depth : Nat} {s : Codes} : s.Whole → Numberless depth (.text s)
  | list {depth : Nat} {items : List Value} : (∀ item ∈ items, Numberless depth item) →
      Numberless (depth + 1) (.list items)
  | object {depth : Nat} {members : Members} : (members.map Prod.fst).Nodup →
      (∀ entry ∈ members, entry.1.Whole) → (∀ entry ∈ members, Numberless depth entry.2) →
      Numberless (depth + 1) (.object members)

@[simp] theorem numberless_bool (depth : Nat) (b : Bool) : Numberless depth (.bool b) := .bool b

@[simp] theorem numberless_text (depth : Nat) (s : String) : Numberless depth (.text s) :=
  .text (Codes.whole_ofString s)

@[simp] theorem numberless_object {depth : Nat} {members : Members} : Numberless (depth + 1) (.object members) ↔
    (members.map Prod.fst).Nodup ∧ (∀ entry ∈ members, entry.1.Whole) ∧
      ∀ entry ∈ members, Numberless depth entry.2 :=
  ⟨fun | .object hkeys hwhole h => ⟨hkeys, hwhole, h⟩, fun h => .object h.1 h.2.1 h.2.2⟩

/-- The characters that texts of such values begin with. -/
def opensValue (c : Char) : Bool := ['n', 't', 'f', '"', '[', '\x7b'].contains c

variable {depth : Nat} {v : Value}

theorem Numberless.print_eq_cons (h : Numberless depth v) : ∃ c tail, print v = c :: tail ∧ opensValue c := by
  cases h with
  | null => exact ⟨_, _, rfl, rfl⟩
  | bool b => cases b <;> exact ⟨_, _, rfl, rfl⟩
  | text hs => exact ⟨_, _, rfl, rfl⟩
  | @list depth items h => cases items <;> exact ⟨_, _, rfl, rfl⟩
  | @object depth members hkeys hwhole h => cases members <;> exact ⟨_, _, rfl, rfl⟩

theorem not_isGap_of_opensValue {c : Char} (h : opensValue c) : isGap c = false := by
  simp only [opensValue, List.contains_cons, List.contains_nil, Bool.or_false, Bool.or_eq_true, beq_iff_eq] at h
  rcases h with rfl | rfl | rfl | rfl | rfl | rfl <;> rfl

theorem skipGap_cons {c : Char} (h : isGap c = false) (s : List Char) : skipGap (c :: s) = c :: s :=
  List.dropWhile_cons_of_neg (by simp [h])

theorem Numberless.skipGap_print (h : Numberless depth v) (rest : List Char) :
    skipGap (print v ++ rest) = print v ++ rest := by
  obtain ⟨c, tail, hprint, hc⟩ := h.print_eq_cons
  rw [hprint, List.cons_append, skipGap_cons (not_isGap_of_opensValue hc)]

/-! ## Lists -/

section

variable {fuel : Nat} {after : List Char} {item : Value} {items : List Value}

theorem readItems_last (h : readValue depth fuel s = .ok (item, ']' :: rest)) :
    readItems depth (fuel + 1) s = .ok ([item], rest) := by
  rw [readItems, h]
  rfl

theorem readItems_next (h : readValue depth fuel s = .ok (item, ',' :: ' ' :: after)) (hgap : skipGap after = after)
    (hitems : readItems depth fuel after = .ok (items, rest)) :
    readItems depth (fuel + 1) s = .ok (item :: items, rest) := by
  have hcomma : skipGap (',' :: ' ' :: after) = ',' :: ' ' :: after := rfl
  have hblank : skipGap (' ' :: after) = after := hgap
  rw [readItems, h]
  simp only [bind, Except.bind, hcomma, hblank, hitems]
  rfl

theorem readValue_items (hgap : skipGap s = s) (hs : ∀ tail, s ≠ ']' :: tail)
    (h : readItems depth fuel s = .ok (items, rest)) :
    readValue (depth + 1) (fuel + 1) ('[' :: s) = .ok (.list items, rest) := by
  simp only [readValue, hgap, h]
  rfl

end

/-- A value is read back from its text, whatever follows. -/
def ReadsBack (depth : Nat) (v : Value) : Prop :=
  ∀ fuel rest, (print v).length ≤ fuel → readValue depth fuel (print v ++ rest) = .ok (v, rest)

/-- A text is not empty, so that there is fuel for its first step. -/
theorem Numberless.readsBack_of_succ (hv : Numberless depth v) (h : ∀ fuel rest, (print v).length ≤ fuel + 1 →
    readValue depth (fuel + 1) (print v ++ rest) = .ok (v, rest)) : ReadsBack depth v := by
  intro fuel rest hfuel
  cases fuel with
  | zero =>
    obtain ⟨c, tail, hprint, -⟩ := hv.print_eq_cons
    rw [hprint] at hfuel
    cases hfuel
  | succ fuel => exact h fuel rest hfuel

theorem readItems_printed {item : Value} {items : List Value}
    (h : ∀ v ∈ item :: items, Numberless depth v ∧ ReadsBack depth v) {fuel : Nat} (rest : List Char)
    (hfuel : (print item ++ printItems items).length ≤ fuel) :
    readItems depth fuel (print item ++ (printItems items ++ rest)) = .ok (item :: items, rest) := by
  induction items generalizing item fuel with
  | nil =>
    obtain ⟨fuel, rfl⟩ : ∃ k, fuel = k + 1 := ⟨fuel - 1, by simp [printItems] at hfuel; omega⟩
    simp only [printItems, List.length_append, List.length_singleton] at hfuel
    exact readItems_last ((h item List.mem_cons_self).2 fuel _ (by omega))
  | cons next items ih =>
    obtain ⟨fuel, rfl⟩ : ∃ k, fuel = k + 1 := ⟨fuel - 1, by simp [printItems] at hfuel; omega⟩
    rw [List.forall_mem_cons] at h
    simp only [printItems, List.length_append, List.length_cons] at hfuel
    have hlength : (print next ++ printItems items).length ≤ fuel := by
      simp only [List.length_append]
      omega
    have hitems := ih h.2 hlength
    have hgap := (h.2 next List.mem_cons_self).1.skipGap_print (printItems items ++ rest)
    simp only [printItems, List.cons_append, List.append_assoc]
    exact readItems_next (h.1.2 fuel _ (by omega)) hgap hitems

/-- A list whose items are read back is read back. -/
theorem readsBack_list {items : List Value} (h : ∀ v ∈ items, Numberless depth v ∧ ReadsBack depth v) :
    ReadsBack (depth + 1) (.list items) := by
  refine Numberless.readsBack_of_succ (.list fun v hv => (h v hv).1) fun fuel rest hfuel => ?_
  cases items with
  | nil => rfl
  | cons item items =>
    have hitem := (h item List.mem_cons_self).1
    have hbegins (tail : List Char) : print item ++ (printItems items ++ rest) ≠ ']' :: tail := by
      obtain ⟨c, text, hprint, hc⟩ := hitem.print_eq_cons
      rw [hprint]
      rintro ⟨⟩
      cases hc
    simp only [print, List.length_cons] at hfuel
    rw [print, List.cons_append, List.append_assoc]
    exact readValue_items (hitem.skipGap_print _) hbegins (readItems_printed h rest (Nat.le_of_succ_le_succ hfuel))

/-! ## Objects -/

section

variable {fuel : Nat} {after : List Char} {key : Codes} {value : Value} {pairs : Members}

theorem readPairs_last (hkey : key.Whole) (h : readValue depth fuel s = .ok (value, '\x7d' :: rest))
    (hgap : skipGap s = s) :
    readPairs depth (fuel + 1) (printString key ++ ':' :: ' ' :: s) = .ok ([(key, value)], rest) := by
  have hblank : skipGap (' ' :: s) = s := hgap
  have hcolon : skipGap (':' :: ' ' :: s) = ':' :: ' ' :: s := rfl
  simp only [printString, List.cons_append, List.append_assoc, List.nil_append, readPairs, readString_printed _ hkey]
  simp only [bind, Except.bind, hcolon, hblank, h]
  rfl

theorem readPairs_next (hkey : key.Whole) (h : readValue depth fuel s = .ok (value, ',' :: ' ' :: after))
    (hgap : skipGap s = s) (hafter : skipGap after = after) (hpairs : readPairs depth fuel after = .ok (pairs, rest)) :
    readPairs depth (fuel + 1) (printString key ++ ':' :: ' ' :: s) = .ok ((key, value) :: pairs, rest) := by
  have hblank : skipGap (' ' :: s) = s := hgap
  have hcolon : skipGap (':' :: ' ' :: s) = ':' :: ' ' :: s := rfl
  have hcomma : skipGap (',' :: ' ' :: after) = ',' :: ' ' :: after := rfl
  have hblank' : skipGap (' ' :: after) = after := hafter
  simp only [printString, List.cons_append, List.append_assoc, List.nil_append, readPairs, readString_printed _ hkey]
  simp only [bind, Except.bind, hcolon, hblank, h, hcomma, hblank', hpairs]
  rfl

theorem readValue_pairs (hgap : skipGap s = s) (hs : ∀ tail, s ≠ '\x7d' :: tail)
    (h : readPairs depth fuel s = .ok (pairs, rest)) :
    readValue (depth + 1) (fuel + 1) ('\x7b' :: s) = .ok (.object (membersOf pairs), rest) := by
  simp only [readValue, hgap, h]
  rfl

end

/-- What begins with a printed string begins with no gap. -/
theorem skipGap_printString (s : Codes) (after : List Char) :
    skipGap (printString s ++ after) = printString s ++ after := rfl

theorem readPairs_printed {key : Codes} {value : Value} {members : Members}
    (h : ∀ entry ∈ (key, value) :: members, entry.1.Whole ∧ Numberless depth entry.2 ∧ ReadsBack depth entry.2)
    {fuel : Nat} (rest : List Char) (hfuel : (print value ++ printMembers members).length ≤ fuel) :
    readPairs depth fuel (printString key ++ ':' :: ' ' :: (print value ++ (printMembers members ++ rest))) =
      .ok ((key, value) :: members, rest) := by
  induction members generalizing key value fuel with
  | nil =>
    obtain ⟨fuel, rfl⟩ : ∃ k, fuel = k + 1 := ⟨fuel - 1, by simp [printMembers] at hfuel; omega⟩
    simp only [printMembers, List.length_append, List.length_singleton] at hfuel
    obtain ⟨hkey, hvalue, hreads⟩ : key.Whole ∧ Numberless depth value ∧ ReadsBack depth value :=
      h (key, value) List.mem_cons_self
    exact readPairs_last hkey (hreads fuel _ (by omega)) (hvalue.skipGap_print _)
  | cons next members ih =>
    obtain ⟨fuel, rfl⟩ : ∃ k, fuel = k + 1 := ⟨fuel - 1, by simp [printMembers] at hfuel; omega⟩
    obtain ⟨hkey, hvalue, hreads⟩ : key.Whole ∧ Numberless depth value ∧ ReadsBack depth value :=
      h (key, value) List.mem_cons_self
    have hmembers := (List.forall_mem_cons.1 h).2
    simp only [printMembers, List.length_append, List.length_cons] at hfuel
    have hlength : (print next.2 ++ printMembers members).length ≤ fuel := by
      simp only [List.length_append]
      omega
    have hpairs := ih hmembers hlength
    simp only [printMembers, List.cons_append, List.append_assoc]
    exact readPairs_next hkey (hreads fuel _ (by omega)) (hvalue.skipGap_print _) (skipGap_printString _ _) hpairs

/-- An object with each key once, whose values are read back, is read back. -/
theorem readsBack_object {members : Members} (hkeys : (members.map Prod.fst).Nodup)
    (h : ∀ entry ∈ members, entry.1.Whole ∧ Numberless depth entry.2 ∧ ReadsBack depth entry.2) :
    ReadsBack (depth + 1) (.object members) := by
  refine Numberless.readsBack_of_succ (.object hkeys (fun v hv => (h v hv).1) fun v hv => (h v hv).2.1)
    fun fuel rest hfuel => ?_
  cases members with
  | nil => rfl
  | cons entry members =>
    simp only [print, List.length_cons, List.length_append] at hfuel
    have hlength : (print entry.2 ++ printMembers members).length ≤ fuel := by
      simp only [List.length_append]
      omega
    have hpairs := readPairs_printed h rest hlength
    have hvalue := readValue_pairs (skipGap_printString _ _) nofun hpairs
    rw [membersOf, Table.ofPairs_eq_self hkeys] at hvalue
    simpa only [print, List.cons_append, List.append_assoc] using hvalue

/-! ## Values -/

/-- A value without numbers is read back from its text, whatever follows. -/
theorem Numberless.readsBack (h : Numberless depth v) : ReadsBack depth v := by
  induction h with
  | null => exact Numberless.null.readsBack_of_succ fun _ _ _ => rfl
  | bool b => exact (Numberless.bool b).readsBack_of_succ fun _ _ _ => by cases b <;> rfl
  | text hs =>
    refine (Numberless.text hs).readsBack_of_succ fun fuel rest _ => ?_
    simp only [print, printString, List.cons_append, List.append_assoc, List.nil_append, readValue,
      readString_printed _ hs]
    rfl
  | list h ih => exact readsBack_list fun item hitem => ⟨h item hitem, ih item hitem⟩
  | object hkeys hwhole h ih =>
    exact readsBack_object hkeys fun entry hentry => ⟨hwhole entry hentry, h entry hentry, ih entry hentry⟩

/-! ## ASCII -/

theorem isAscii_unitEscape (u : Nat) : ∀ c ∈ unitEscape u, isAscii c := by
  have hdigit (n : Nat) : isAscii (Nat.digitChar (n % 16)) := by
    have hall : ∀ d < 16, isAscii (Nat.digitChar d) := by decide
    exact hall _ (Nat.mod_lt n (by decide))
  simp only [unitEscape, Hex.lower, List.nil_append, List.cons_append, List.forall_mem_cons, hdigit, true_and]
  exact ⟨rfl, rfl, nofun⟩

theorem isAscii_printChar (c : Char) : ∀ d ∈ printChar c, isAscii d := by
  unfold printChar
  split_ifs with hquote hbackslash hlf hcr htab hbackspace hff hplain
  -- the short escapes
  iterate 7 next => exact List.all_eq_true.1 rfl
  · rw [List.forall_mem_singleton, isAscii, decide_eq_true_eq]
    exact Nat.lt_trans hplain.2 (by decide)
  · rw [List.forall_mem_flatMap]
    exact fun u _ => isAscii_unitEscape u

theorem isAscii_printCode (c : Code) : ∀ d ∈ printCode c, isAscii d := by
  cases c with
  | char c => exact isAscii_printChar c
  | lone u => exact isAscii_unitEscape u.unit

theorem isAscii_printString (s : Codes) : ∀ c ∈ printString s, isAscii c := by
  simp only [printString, List.forall_mem_cons, List.forall_mem_append, List.forall_mem_flatMap]
  exact ⟨rfl, fun c _ => isAscii_printCode c, rfl, nofun⟩

theorem isAscii_printItems {items : List Value} (h : ∀ item ∈ items, ∀ c ∈ print item, isAscii c) :
    ∀ c ∈ printItems items, isAscii c := by
  induction items with
  | nil => exact List.forall_mem_singleton.2 rfl
  | cons item items ih =>
    rw [List.forall_mem_cons] at h
    simp only [printItems, List.forall_mem_cons, List.forall_mem_append]
    exact ⟨rfl, rfl, h.1, ih h.2⟩

theorem isAscii_printMembers {members : Members} (h : ∀ entry ∈ members, ∀ c ∈ print entry.2, isAscii c) :
    ∀ c ∈ printMembers members, isAscii c := by
  induction members with
  | nil => exact List.forall_mem_singleton.2 rfl
  | cons entry members ih =>
    rw [List.forall_mem_cons] at h
    simp only [printMembers, List.forall_mem_cons, List.forall_mem_append]
    exact ⟨rfl, rfl, isAscii_printString _, rfl, rfl, h.1, ih h.2⟩

/-- The text of a value without numbers is ASCII. -/
theorem Numberless.isAscii_print (h : Numberless depth v) : ∀ c ∈ print v, isAscii c := by
  induction h with
  | null => exact List.all_eq_true.1 rfl
  | bool b => cases b <;> exact List.all_eq_true.1 rfl
  | text hs => exact isAscii_printString _
  | @list depth items h ih =>
    cases items with
    | nil => exact List.all_eq_true.1 rfl
    | cons item items =>
      rw [List.forall_mem_cons] at ih
      simp only [print, List.forall_mem_cons, List.forall_mem_append]
      exact ⟨rfl, ih.1, isAscii_printItems ih.2⟩
  | @object depth members hkeys hwhole h ih =>
    cases members with
    | nil => exact List.all_eq_true.1 rfl
    | cons entry members =>
      rw [List.forall_mem_cons] at ih
      simp only [print, List.forall_mem_cons, List.forall_mem_append]
      exact ⟨rfl, isAscii_printString _, rfl, rfl, ih.1, isAscii_printMembers ih.2⟩

/-! ## Whole texts -/

/-- A value without numbers is the one value of its text. -/
theorem read_print (h : Numberless depth v) : read depth (print v) = .ok v := by
  obtain ⟨c, tail, hprint, hc⟩ := h.print_eq_cons
  have hvalue := h.readsBack (2 * (print v).length + 2) [] (by omega)
  have hgap := h.skipGap_print []
  rw [List.append_nil] at hvalue hgap
  have hmark (rest : List Char) : print v ≠ '\uFEFF' :: rest := by
    rw [hprint]
    rintro ⟨⟩
    cases hc
  have hall : readAll depth (print v) = .ok v := by
    unfold readAll
    split
    next rest heq => exact absurd heq (hmark rest)
    next =>
      rw [hgap, hvalue]
      rfl
  rw [read, hall]
  rfl

end Json

end LintBridge
