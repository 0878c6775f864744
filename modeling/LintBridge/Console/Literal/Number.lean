-- SUMMARY: Numbers in literals.
import LintBridge.Console.Literal.Token

/-!
# Numbers

A number is an integer in one of four bases, or has a point, an exponent or the mark of an imaginary one.
Single underscores may stand between its digits. What follows it must not look like a part of it.
-/

namespace LintBridge.Console.Literal

/-- A character that could belong to a name. -/
def isNamePart (c : Char) : Bool := c.isAlphanum || c == '_' || 0x80 ≤ c.toNat

/-- The words that may follow a number without a blank between. -/
def followers : List String := ["and", "else", "for", "if", "in", "is", "or", "not"]

/-- Refuses a number of a kind that a name follows at once. -/
def endNumber (kind : String) (rest : List Char) : Except Misspelling (List Char) :=
  if (rest.head?.any isNamePart) && !followers.any (·.toList.isPrefixOf rest) then .error (.number kind)
  else .ok rest

/-- What follows groups of digits with single underscores between them. `fuel` bounds the groups by the
length of the text. -/
def dropGroups (isDigit : Char → Bool) : Nat → List Char → Except Misspelling (List Char)
  | 0, s => .ok s
  | fuel + 1, s =>
    match s.dropWhile isDigit with
    | '_' :: rest =>
      if rest.head?.any isDigit then dropGroups isDigit fuel rest else .error (.number "decimal")
    | rest => .ok rest

/-- What follows the digits of a number in another base. -/
def dropBase (kind : String) (isDigit : Char → Bool) : Nat → List Char → Except Misspelling (List Char)
  | 0, s => .ok s
  | fuel + 1, s =>
    let s := if s.head? = some '_' then s.drop 1 else s
    match s with
    | [] => .error (.number kind)
    | c :: _ =>
      if isDigit c then
        match s.dropWhile isDigit with
        | '_' :: rest => dropBase kind isDigit fuel ('_' :: rest)
        | d :: rest =>
          if kind ≠ "hexadecimal" && Decimal.isDigit d then .error (.digit d kind)
          else endNumber kind (d :: rest)
        | [] => .ok []
      else if kind ≠ "hexadecimal" && Decimal.isDigit c then .error (.digit c kind)
      else .error (.number kind)

/-- What follows the end of a decimal number, and whether it is imaginary. -/
def endDecimal : List Char → Except Misspelling (Bool × List Char)
  | c :: rest =>
    if c = 'j' ∨ c = 'J' then do return (true, ← endNumber "imaginary" rest)
    else do return (false, ← endNumber "decimal" (c :: rest))
  | [] => .ok (false, [])

/-- What follows the exponent of a decimal number, if it has one. An `e` without digits is none. -/
def dropExponent (s : List Char) : Except Misspelling (Bool × List Char) := do
  let groups (s : List Char) := dropGroups Decimal.isDigit s.length s
  match s with
  | e :: rest =>
    if e ≠ 'e' && e ≠ 'E' then endDecimal (e :: rest)
    else
      match rest with
      | sign :: digits =>
        if sign = '+' ∨ sign = '-' then
          if digits.head?.any Decimal.isDigit then endDecimal (← groups digits)
          else throw (.number "decimal")
        else if Decimal.isDigit sign then endDecimal (← groups rest)
        else return (false, ← endNumber "decimal" (e :: rest))
      | [] => throw (.number "decimal")
  | [] => return (false, [])

/-- What follows the point and the digits after it, and the exponent. -/
def dropFraction (s : List Char) : Except Misspelling (Bool × List Char) := do
  match s with
  | '.' :: rest =>
    if rest.head?.any Decimal.isDigit then
      dropExponent (← dropGroups Decimal.isDigit rest.length rest)
    else dropExponent rest
  | _ => dropExponent s

/-- An integer from which on no fraction is near: the first one that is rounded to 2 to the power of 1024. -/
def hugeBound : Nat := Nat.pow 2 1024 - Nat.pow 2 970

/-- A decimal number: an integer has neither a point nor an exponent, and does not begin with zero unless
it is zero. -/
def readDecimal (s : List Char) : Except Misspelling (Numeral × List Char) := do
  let after ← dropGroups Decimal.isDigit s.length s
  let digits := (s.take (s.length - after.length)).filter Decimal.isDigit
  let isWhole := !after.head?.any fun c => c == '.' || c == 'e' || c == 'E' || c == 'j' || c == 'J'
  if isWhole && digits.head? = some '0' && digits.any (· ≠ '0') then throw .leadingZeros
  let (imaginary, rest) ← dropFraction after
  let isTooLong := isWhole && digits.head? ≠ some '0' && Decimal.maxDigits < digits.length
  let fault := if isTooLong then some ⟨digits.length⟩ else none
  return ({ imaginary, huge := isWhole && !isTooLong && hugeBound ≤ Decimal.value digits, fault }, rest)

/-- The number that digits in a base write. -/
def valueInBase (base : Nat) (digits : List Char) : Nat :=
  (digits.filterMap Hex.digit?).foldl (fun n d => n * base + d) 0

/-- A number in a base other than ten, after the mark of its base. -/
def readInBase (kind : String) (base : Nat) (digits : List Char) :
    Except Misspelling (Numeral × List Char) := do
  let rest ← dropBase kind (fun c => (Hex.digit? c).any (· < base)) digits.length digits
  let value := valueInBase base (digits.take (digits.length - rest.length))
  return ({ imaginary := false, huge := hugeBound ≤ value, fault := none }, rest)

/-- The number at the beginning of a text. -/
def readNumber (s : List Char) : Except Misspelling (Numeral × List Char) :=
  match s with
  | '0' :: mark :: digits =>
    if mark = 'x' ∨ mark = 'X' then readInBase "hexadecimal" 16 digits
    else if mark = 'o' ∨ mark = 'O' then readInBase "octal" 8 digits
    else if mark = 'b' ∨ mark = 'B' then readInBase "binary" 2 digits
    else readDecimal s
  | _ => readDecimal s

end LintBridge.Console.Literal
