-- SUMMARY: The reader of JSON texts, with the place and kind of the first fault.
import LintBridge.Json.Value
import LintBridge.Number.Decimal
import LintBridge.Number.Hex
import LintBridge.Text.Utf16

/-!
# Reading JSON

The reader takes standard JSON and the three words `NaN`, `Infinity` and `-Infinity`. It refuses a
byte order mark and control characters inside strings. Each function returns what is left of the text,
and a fault tells how many characters were left where it stands; `ReadError.at` turns that into a line
and a column. Lists and objects within each other are limited in number by what the caller leaves to the reader,
and so are the digits of an integer; a text beyond a limit is refused as such, and not as malformed.
-/

namespace LintBridge.Json

/-! ## Faults -/

/-- What is wrong with a text. -/
inductive Fault where
  | value | key | colon | comma | extraData | controlCharacter | unterminated | escape | unicodeEscape
  | byteOrderMark
  deriving DecidableEq, Repr

def Fault.message : Fault → String
  | .value => "Expecting value"
  | .key => "Expecting property name enclosed in double quotes"
  | .colon => "Expecting ':' delimiter"
  | .comma => "Expecting ',' delimiter"
  | .extraData => "Extra data"
  | .controlCharacter => "Invalid control character at"
  | .unterminated => "Unterminated string starting at"
  | .escape => "Invalid \\escape"
  | .unicodeEscape => "Invalid \\uXXXX escape"
  | .byteOrderMark => "Unexpected UTF-8 BOM (decode using utf-8-sig)"

/-- A limit that a text goes beyond. -/
inductive Limit where
  /-- An integer has too many digits. -/
  | digits (cause : Decimal.TooManyDigits)
  /-- A list is within too many others. -/
  | list
  /-- An object is within too many others. -/
  | object
  deriving DecidableEq, Repr

def Limit.message : Limit → String
  | .digits cause => cause.message
  | .list => "maximum recursion depth exceeded while decoding a JSON array from a unicode string"
  | .object => "maximum recursion depth exceeded while decoding a JSON object from a unicode string"

/-- Why reading stops: a fault with the number of characters from its place to the end of the text, or
a limit. -/
inductive Stop where
  | fault (fault : Fault) (left : Nat)
  | beyond (limit : Limit)
  deriving DecidableEq, Repr

/-- A fault with its place: the characters before it, and the line and column counted from one. -/
structure FaultPlace where
  fault : Fault
  line : Nat
  column : Nat
  offset : Nat
  deriving DecidableEq, Repr

/-- A fault that left so many characters of the text that was read. -/
def FaultPlace.at (text : List Char) (fault : Fault) (left : Nat) : FaultPlace :=
  let offset := text.length - left
  let before := text.take offset
  { fault
    line := before.count '\n' + 1
    column := (before.reverse.takeWhile (· ≠ '\n')).length + 1
    offset }

def FaultPlace.message (e : FaultPlace) : String :=
  let fault := e.fault.message
  s!"{fault}: line {e.line} column {e.column} (char {e.offset})"

/-- Why a text has no value. -/
inductive ReadError where
  | malformed (place : FaultPlace)
  | beyond (limit : Limit)
  deriving DecidableEq, Repr

/-- The reason of a stop in the text that was read. -/
def ReadError.at (text : List Char) : Stop → ReadError
  | .fault fault left => .malformed (.at text fault left)
  | .beyond limit => .beyond limit

def ReadError.message : ReadError → String
  | .malformed place => place.message
  | .beyond limit => limit.message

/-! ## Strings -/

/-- The blanks between tokens. -/
def isGap (c : Char) : Bool := c == ' ' || c == '\t' || c == '\n' || c == '\r'

def skipGap (s : List Char) : List Char := s.dropWhile isGap

/-- The number that four hexadecimal digits write. -/
def hex4? (a b c d : Char) : Option Nat := do
  let a ← Hex.digit? a
  let b ← Hex.digit? b
  let c ← Hex.digit? c
  let d ← Hex.digit? d
  return ((a * 16 + b) * 16 + c) * 16 + d

/-- The character of a one-letter escape. -/
def simpleEscape? : Char → Option Char
  | '"' => some '"'
  | '\\' => some '\\'
  | '/' => some '/'
  | 'b' => some '\x08'
  | 'f' => some '\x0c'
  | 'n' => some '\n'
  | 'r' => some '\r'
  | 't' => some '\t'
  | _ => none

/-- The text that numbers write: those of characters, or UTF-16 units. Two surrogates that make a pair are joined. -/
def ofNumbers : List Nat → Text.Codes
  | [] => []
  | [u] => [.ofNat u]
  | u :: v :: rest =>
    if Text.isHighSurrogate u && Text.isLowSurrogate v then .char (Text.joinSurrogates u v) :: ofNumbers rest
    else .ofNat u :: ofNumbers (v :: rest)

/-- The numbers of the rest of a string up to its closing quote. `opened` is what was left at the opening
quote. An escape of four digits needs one more character after it. -/
def readNumbers (opened : Nat) : List Char → Except Stop (List Nat × List Char)
  | [] => .error (.fault .unterminated opened)
  | '"' :: rest => .ok ([], rest)
  | ['\\'] => .error (.fault .unterminated opened)
  | '\\' :: 'u' :: a :: b :: c :: d :: next :: rest =>
    match hex4? a b c d with
    | none => .error (.fault .unicodeEscape (rest.length + 6))
    | some u => do
      let (numbers, after) ← readNumbers opened (next :: rest)
      return (u :: numbers, after)
  | '\\' :: c :: rest =>
    if c = 'u' then .error (.fault .unicodeEscape (rest.length + 1))
    else
      match simpleEscape? c with
      | none => .error (.fault .escape (rest.length + 2))
      | some e => do
        let (numbers, after) ← readNumbers opened rest
        return (e.toNat :: numbers, after)
  | c :: rest =>
    if c.toNat < 0x20 then .error (.fault .controlCharacter (rest.length + 1))
    else do
      let (numbers, after) ← readNumbers opened rest
      return (c.toNat :: numbers, after)

/-- The rest of a string up to its closing quote. -/
def readString (opened : Nat) (s : List Char) : Except Stop (Text.Codes × List Char) := do
  let (numbers, after) ← readNumbers opened s
  return (ofNumbers numbers, after)

/-! ## Numbers -/

open Decimal (isDigit)

/-- The whole part of a number: a zero by itself, or digits that do not begin with zero. -/
def readWhole? : List Char → Option (List Char × List Char)
  | '0' :: rest => some (['0'], rest)
  | c :: rest =>
    if isDigit c then some (c :: rest.takeWhile isDigit, rest.dropWhile isDigit) else none
  | [] => none

/-- The digits after a point, if a point with a digit stands here. -/
def readFraction : List Char → List Char × List Char
  | '.' :: c :: rest =>
    if isDigit c then (c :: rest.takeWhile isDigit, rest.dropWhile isDigit) else ([], '.' :: c :: rest)
  | s => ([], s)

/-- The exponent, if one with at least one digit stands here. -/
def readExponent? : List Char → Option (Int × List Char)
  | [] => none
  | e :: rest =>
    if e = 'e' ∨ e = 'E' then
      let (negative, rest) := match rest with
        | '-' :: rest => (true, rest)
        | '+' :: rest => (false, rest)
        | _ => (false, rest)
      let digits := rest.takeWhile isDigit
      if digits.isEmpty then none
      else
        let size : Int := Decimal.value digits
        some (if negative then -size else size, rest.dropWhile isDigit)
    else none

/-- A number without its sign. -/
def readUnsigned? (negative : Bool) (s : List Char) : Option (Value × List Char) := do
  let (whole, rest) ← readWhole? s
  let (fraction, rest) := readFraction rest
  match fraction, readExponent? rest with
  | [], none =>
    let size : Int := Decimal.value whole
    return (.int (if negative then -size else size), rest)
  | _, found =>
    let (exponent, rest) := found.getD (0, rest)
    let digits := Decimal.value (whole ++ fraction)
    return (.float (Binary64.ofDecimal negative digits (exponent - fraction.length)), rest)

def readNumber? : List Char → Option (Value × List Char)
  | '-' :: rest => readUnsigned? true rest
  | s => readUnsigned? false s

/-- A word or a number. -/
def readScalar? : List Char → Option (Value × List Char)
  | 'n' :: 'u' :: 'l' :: 'l' :: rest => some (.null, rest)
  | 't' :: 'r' :: 'u' :: 'e' :: rest => some (.bool true, rest)
  | 'f' :: 'a' :: 'l' :: 's' :: 'e' :: rest => some (.bool false, rest)
  | 'N' :: 'a' :: 'N' :: rest => some (.float .nan, rest)
  | 'I' :: 'n' :: 'f' :: 'i' :: 'n' :: 'i' :: 't' :: 'y' :: rest => some (.float (.infinite false), rest)
  | '-' :: 'I' :: 'n' :: 'f' :: 'i' :: 'n' :: 'i' :: 't' :: 'y' :: rest =>
    some (.float (.infinite true), rest)
  | s => readNumber? s

/-- A word or a number, with the text that is left; an integer must not have too many digits. -/
def readScalar (s : List Char) : Except Stop (Value × List Char) :=
  match readScalar? s with
  | some (.int i, rest) =>
    match Decimal.checkLengths [(s.dropWhile (· = '-')).takeWhile isDigit] with
    | .ok _ => .ok (.int i, rest)
    | .error cause => .error (.beyond (.digits cause))
  | some found => .ok found
  | none => .error (.fault .value s.length)

/-! ## Values -/

mutual

/-- One value, within which `depth` lists and objects may be within each other. `fuel` bounds the steps;
twice the length of the text is enough. -/
def readValue (depth : Nat) : Nat → List Char → Except Stop (Value × List Char)
  | 0, s => .error (.fault .value s.length)
  | fuel + 1, s =>
    match s with
    | '"' :: rest => do
      let (text, rest) ← readString s.length rest
      return (.text text, rest)
    | '[' :: rest =>
      match depth, skipGap rest with
      | 0, _ => .error (.beyond .list)
      | _ + 1, ']' :: rest => .ok (.list [], rest)
      | depth + 1, rest => do
        let (items, rest) ← readItems depth fuel rest
        return (.list items, rest)
    | '{' :: rest =>
      match depth, skipGap rest with
      | 0, _ => .error (.beyond .object)
      | _ + 1, '}' :: rest => .ok (.object [], rest)
      | depth + 1, rest => do
        let (pairs, rest) ← readPairs depth fuel rest
        return (.object (membersOf pairs), rest)
    | _ => readScalar s

/-- The items of a list up to its closing bracket, at least one. -/
def readItems (depth : Nat) : Nat → List Char → Except Stop (List Value × List Char)
  | 0, s => .error (.fault .value s.length)
  | fuel + 1, s => do
    let (item, rest) ← readValue depth fuel s
    match skipGap rest with
    | ']' :: rest => return ([item], rest)
    | ',' :: rest =>
      let (items, rest) ← readItems depth fuel (skipGap rest)
      return (item :: items, rest)
    | rest => .error (.fault .comma rest.length)

/-- The members of an object up to its closing brace, at least one. -/
def readPairs (depth : Nat) : Nat → List Char → Except Stop (List (Text.Codes × Value) × List Char)
  | 0, s => .error (.fault .key s.length)
  | fuel + 1, s =>
    match s with
    | '"' :: rest => do
      let (key, rest) ← readString s.length rest
      match skipGap rest with
      | ':' :: rest =>
        let (value, rest) ← readValue depth fuel (skipGap rest)
        match skipGap rest with
        | '}' :: rest => return ([(key, value)], rest)
        | ',' :: rest =>
          let (pairs, rest) ← readPairs depth fuel (skipGap rest)
          return ((key, value) :: pairs, rest)
        | rest => .error (.fault .comma rest.length)
      | rest => .error (.fault .colon rest.length)
    | _ => .error (.fault .key s.length)

end

/-- The one value that a text holds, with blanks around it and at most `depth` lists and objects within each other. -/
def readAll (depth : Nat) (s : List Char) : Except Stop Value :=
  match s with
  | '\uFEFF' :: _ => .error (.fault .byteOrderMark s.length)
  | _ => do
    let (value, rest) ← readValue depth (2 * s.length + 2) (skipGap s)
    match skipGap rest with
    | [] => return value
    | rest => .error (.fault .extraData rest.length)

/-- The value of a JSON text. -/
def read (depth : Nat) (s : List Char) : Except ReadError Value := (readAll depth s).mapError (ReadError.at s)

end LintBridge.Json
