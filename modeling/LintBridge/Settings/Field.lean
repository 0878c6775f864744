-- SUMMARY: The values that settings fields take, read from options and environment variables.
import LintBridge.Number.Decimal
import LintBridge.Text.Blank
import LintBridge.Validation

/-!
# Settings fields

A field takes a value of its own kind, and the values of other kinds that clearly stand for one: a
number written as a text, a whole number with a point, a truth value written as a number or a word.
A number that has to be turned into another kind must fit in a word of sixty-four bits, and a text must be one
of characters.
-/

namespace LintBridge.Settings

open Json

/-- A text without its underscores, if each of them stands singly between other characters. -/
def dropUnderscores? (s : List Char) : Option (List Char) :=
  let doubled := (s.zip (s.drop 1)).contains ('_', '_')
  if s.head? = some '_' ∨ s.getLast? = some '_' ∨ doubled then none
  else some (s.filter (· ≠ '_'))

/-- The sign at the beginning of a text, true for minus, and what follows it. -/
def readSign : List Char → Bool × List Char
  | '-' :: rest => (true, rest)
  | '+' :: rest => (false, rest)
  | s => (false, s)

/-! ## Texts and truth values -/

/-- The characters of a text that is read as something else. -/
def readChars (s : Text.Codes) : Except Problem (List Char) :=
  match s.chars? with
  | some chars => .ok chars
  | none => .error .notUnicode

def readText : Value → Except Problem String
  | .text s => .ok s.shown
  | _ => .error .text

/-- The words for true and false, in lower case. -/
def truthWords : List (String × Bool) :=
  [("0", false), ("off", false), ("f", false), ("false", false), ("n", false), ("no", false),
    ("1", true), ("on", true), ("t", true), ("true", true), ("y", true), ("yes", true)]

/-- The bound of the numbers that fit in a signed word. -/
def wordBound : Int := 9223372036854775808

/-- The truth value that an integer stands for. -/
def truthOfInt (i : Int) : Except Problem Bool :=
  if i = 0 then .ok false else if i = 1 then .ok true else .error .boolUnreadable

def readTruth : Value → Except Problem Bool
  | .bool b => .ok b
  | .int i => if -wordBound ≤ i ∧ i < wordBound then truthOfInt i else .error .bool
  | .float x =>
    match x.toInt? with
    | some i => if -wordBound < i ∧ i < wordBound then truthOfInt i else .error .bool
    | none => .error .bool
  | .text s => do
    match truthWords.lookup (String.ofList ((← readChars s).map Char.toLower)) with
    | some b => return b
    | none => throw .boolUnreadable
  | _ => .error .bool

/-! ## Integers -/

/-- The minus sign at the beginning of a text, and what follows it. -/
def readMinus : List Char → Bool × List Char
  | '-' :: rest => (true, rest)
  | s => (false, s)

/-- The integer that a text writes in its plain form: digits that do not begin with zero, or a single
zero, and a minus sign before them if it is negative. Too many digits are a fault of their own, whatever
follows them. -/
def plainInteger (s : List Char) : Except Problem Int :=
  let (negative, unsigned) := readMinus s
  let digits := unsigned.takeWhile Decimal.isDigit
  let size : Int := Decimal.value digits
  let complete := digits.length = unsigned.length
  match digits with
  | [] => .error .intUnreadable
  | '0' :: more => if more.isEmpty ∧ complete then .ok 0 else .error .intUnreadable
  | _ =>
    if Decimal.maxDigits < digits.length then .error .intSize
    else if complete then .ok (if negative then -size else size)
    else .error .intUnreadable

/-- A character that an integer without its leading zeros begins with. -/
def beginsInteger (c : Char) : Bool := c == '-' || (Decimal.isDigit c && c != '0')

/-- A text without the zeros and underscores at its beginning; `before` is the last one left out. One
stays if nothing or a point follows. -/
def dropZerosAfter? (before : Char) : List Char → Option (List Char)
  | [] => some [before]
  | c :: rest =>
    if c = '0' ∨ c = '_' then dropZerosAfter? c rest
    else if beginsInteger c then some (c :: rest)
    else if c = '.' then some (before :: c :: rest)
    else none

/-- A text without leading zeros, if an integer begins it. -/
def dropZeros? : List Char → Option (List Char)
  | [] => none
  | c :: rest =>
    if c = '0' then dropZerosAfter? c rest
    else if beginsInteger c then some (c :: rest)
    else none

/-- A text without a point and zeros at its end. -/
def dropFraction (s : List Char) : List Char :=
  match s.dropWhile (· ≠ '.') with
  | _ :: '0' :: zeros => if zeros.all (· == '0') then s.takeWhile (· ≠ '.') else s
  | _ => s

/-- The plain form of an integer that is written with blanks around it, a plus sign, zeros at the
beginning or after the minus sign, underscores between its characters, or a point and zeros. -/
def plainForm? (s : List Char) : Option (List Char) := do
  let s ← match Text.trim Text.isSpace s with
    | '+' :: '-' :: _ => none
    | '+' :: rest => some rest
    | s => some s
  let (negative, unsigned) := readMinus s
  let unsigned ← dropZeros? unsigned
  let s := dropFraction (if negative then '-' :: unsigned else unsigned)
  return (dropUnderscores? s).getD s

/-- The integer that a text writes in its plain form, or in another form that has one. The number of
digits is a fault of its own only in the plain form. -/
def integerOfText (s : List Char) : Except Problem Int :=
  match plainInteger s with
  | .error .intUnreadable =>
    match (plainForm? s).map plainInteger with
    | some (.ok i) => .ok i
    | _ => .error .intUnreadable
  | result => result

def readInteger : Value → Except Problem Int
  | .bool b => .ok (if b then 1 else 0)
  | .int i => .ok i
  | .float (.finite negative m e) =>
    match (Binary64.finite negative m e).toInt? with
    | some i => if -wordBound < i ∧ i < wordBound then .ok i else .error .intSize
    | none => .error .intFraction
  | .float _ => .error .notFinite
  | .text s => do integerOfText (← readChars s)
  | _ => .error .int

/-- A positive integer. -/
def readPositive (v : Value) : Except Problem Nat := do
  let i ← readInteger v
  if 1 ≤ i then return i.toNat else throw (.atLeast 1)

/-! ## Numbers -/

/-- The exponent that a text writes; nothing stands for zero. -/
def exponentOfText? : List Char → Option Int
  | [] => some 0
  | c :: rest => do
    guard (c == 'e' || c == 'E')
    let (negative, digits) := readSign rest
    guard (!digits.isEmpty && digits.all Decimal.isDigit)
    let size : Int := Decimal.value digits
    return if negative then -size else size

/-- The number that a text writes after its sign: a word, or digits with a point and an exponent. -/
def unsignedOfText? (negative : Bool) (s : List Char) : Option Binary64 :=
  match String.ofList (s.map Char.toLower) with
  | "inf" | "infinity" => some (.infinite negative)
  | "nan" => some .nan
  | _ => do
    let whole := s.takeWhile Decimal.isDigit
    let rest := s.dropWhile Decimal.isDigit
    let (fraction, rest) := match rest with
      | '.' :: rest => (rest.takeWhile Decimal.isDigit, rest.dropWhile Decimal.isDigit)
      | _ => ([], rest)
    guard (!(whole ++ fraction).isEmpty)
    let exponent ← exponentOfText? rest
    return .ofDecimal negative (Decimal.value (whole ++ fraction)) (exponent - fraction.length)

def signedOfText? (s : List Char) : Option Binary64 :=
  let (negative, rest) := readSign s
  unsignedOfText? negative rest

/-- The number that a text writes: with blanks around it, or else with underscores in it. -/
def numberOfText? (s : List Char) : Option Binary64 :=
  (signedOfText? (Text.trim Text.isSpace s)).or ((dropUnderscores? s).bind signedOfText?)

def readNumber : Value → Except Problem Binary64
  | .bool b => .ok (.ofRatio false (if b then 1 else 0) 1)
  | .int i =>
    match Binary64.ofInt? i with
    | some x => .ok x
    | none => .error .float
  | .float x => .ok x
  | .text s => do
    match numberOfText? (← readChars s) with
    | some x => return x
    | none => throw .floatUnreadable
  | _ => .error .float

/-- A number of seconds greater than zero; null stands for no limit. -/
def readTimeout : Value → Except Problem (Option Binary64)
  | .null => .ok none
  | v => do
    let x ← readNumber v
    if x.isPositive then return some x else throw (.above 0)

end LintBridge.Settings
