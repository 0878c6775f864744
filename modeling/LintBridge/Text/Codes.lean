-- SUMMARY: Texts in which a surrogate may stand without its partner, and their bytes.
import LintBridge.Number.Hex
import LintBridge.Text.Utf16
import LintBridge.Text.Utf8

/-!
# Code points

A text that is read from escapes is a sequence of code points. Each is a character, or a surrogate that stands
without its partner. Such a text is a string if all of them are characters, and only then it has bytes.
-/

namespace LintBridge.Text

/-- A code point that is no character. -/
structure Surrogate where
  unit : Nat
  isSurrogate : 0xD800 ≤ unit ∧ unit < 0xE000
  deriving DecidableEq, Repr

inductive Code where
  | char (c : Char)
  /-- A surrogate without its partner. -/
  | lone (u : Surrogate)
  deriving DecidableEq, Repr

namespace Code

/-- The code point of a number. -/
def ofNat (n : Nat) : Code := if h : 0xD800 ≤ n ∧ n < 0xE000 then .lone ⟨n, h⟩ else .char (Char.ofNat n)

/-- The character that a code point is. -/
def char? : Code → Option Char
  | .char c => some c
  | .lone _ => none

def isLone (c : Code) : Bool := c.char?.isNone

/-- The character that stands for a code point where only characters can; for a surrogate it is U+FFFD. -/
def shown (c : Code) : Char := c.char?.getD '\uFFFD'

def units : Code → List Nat
  | .char c => charUnits c
  | .lone u => [u.unit]

end Code

/-- A text of code points. -/
abbrev Codes := List Code

namespace Codes

def ofChars (s : List Char) : Codes := s.map .char

def ofString (s : String) : Codes := ofChars s.toList

instance : Coe String Codes := ⟨ofString⟩

/-- The characters of a text, if all its code points are characters. -/
def chars? : Codes → Option (List Char)
  | [] => some []
  | .char c :: rest => (chars? rest).map (c :: ·)
  | .lone _ :: _ => none

/-- The text as it is shown where only characters can stand. -/
def shown (s : Codes) : String := String.ofList (s.map Code.shown)

/-- The UTF-16 units of a text. -/
def units (s : Codes) : List Nat := s.flatMap Code.units

/-- All code points of a text are characters. -/
def Whole (s : Codes) : Prop := ∃ t, s = ofChars t

/-! ## Strings among texts -/

@[simp] theorem ofChars_nil : ofChars [] = [] := rfl

@[simp] theorem ofChars_cons (c : Char) (s : List Char) : ofChars (c :: s) = .char c :: ofChars s := rfl

@[simp] theorem ofChars_append (s t : List Char) : ofChars (s ++ t) = ofChars s ++ ofChars t := List.map_append

@[simp] theorem ofChars_inj {s t : List Char} : ofChars s = ofChars t ↔ s = t :=
  List.map_inj_right fun _ _ h => Code.char.inj h

@[simp] theorem ofString_inj {s t : String} : ofString s = ofString t ↔ s = t := by
  rw [ofString, ofString, ofChars_inj, String.toList_inj]

@[simp] theorem chars?_ofChars (s : List Char) : (ofChars s).chars? = some s := by
  induction s with
  | nil => rfl
  | cons c rest ih => rw [ofChars_cons, chars?, ih]; rfl

/-- A text whose code points are all characters is the text of these. -/
theorem chars?_eq_some_iff {s : Codes} {t : List Char} : s.chars? = some t ↔ s = ofChars t := by
  refine ⟨fun h => ?_, fun h => h ▸ chars?_ofChars t⟩
  induction s generalizing t with
  | nil => cases h; rfl
  | cons c rest ih =>
    cases c with
    | lone u => cases h
    | char c =>
      obtain ⟨t, hrest, rfl⟩ := Option.map_eq_some_iff.1 h
      rw [ih hrest, ofChars_cons]

@[simp] theorem whole_ofChars (s : List Char) : Whole (ofChars s) := ⟨s, rfl⟩

@[simp] theorem whole_ofString (s : String) : Whole (ofString s) := ⟨s.toList, rfl⟩

@[simp] theorem whole_append_iff {s t : Codes} : Whole (s ++ t) ↔ Whole s ∧ Whole t := by
  constructor
  · rintro ⟨u, hu⟩
    obtain ⟨a, b, rfl, rfl, rfl⟩ := List.append_eq_map_iff.1 hu
    exact ⟨⟨a, rfl⟩, ⟨b, rfl⟩⟩
  · rintro ⟨⟨a, rfl⟩, ⟨b, rfl⟩⟩
    exact ⟨a ++ b, (ofChars_append a b).symm⟩

@[simp] theorem shown_ofString (s : String) : (ofString s).shown = s := by
  have hshown : Code.shown ∘ Code.char = id := rfl
  rw [shown, ofString, ofChars, List.map_map, hshown, List.map_id, String.ofList_toList]

@[simp] theorem units_nil : units [] = [] := rfl

@[simp] theorem units_append (s t : Codes) : units (s ++ t) = units s ++ units t := List.flatMap_append

@[simp] theorem units_ofChars (s : List Char) : units (ofChars s) = Text.units s := List.flatMap_map ..

/-! ## Bytes -/

/-- Why a text has no bytes: the first of the surrogates in it. `offset` code points stand before it, and `count`
surrogates stand there one after the other. -/
structure EncodeFault where
  offset : Nat
  first : Surrogate
  count : Nat
  deriving DecidableEq, Repr

def EncodeFault.message (fault : EncodeFault) : String :=
  if fault.count = 1 then
    let unit := String.ofList (Hex.lower 4 fault.first.unit)
    s!"'utf-8' codec can't encode character '\\u{unit}' in position {fault.offset}: surrogates not allowed"
  else
    let last := fault.offset + fault.count - 1
    s!"'utf-8' codec can't encode characters in position {fault.offset}-{last}: surrogates not allowed"

/-- The bytes of a text with `before` code points before it. -/
def encodeFrom (before : Nat) : Codes → Except EncodeFault (List UInt8)
  | [] => .ok []
  | .char c :: rest => (encodeFrom (before + 1) rest).map (String.utf8EncodeChar c ++ ·)
  | .lone u :: rest => .error ⟨before, u, 1 + (rest.takeWhile Code.isLone).length⟩

/-- The UTF-8 bytes of a text. -/
def encode (s : Codes) : Except EncodeFault (List UInt8) := encodeFrom 0 s

end Codes

end LintBridge.Text
