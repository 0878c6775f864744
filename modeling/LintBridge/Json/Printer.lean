-- SUMMARY: The ASCII text of a JSON value.
import LintBridge.Json.Value
import LintBridge.Text.Utf16
import LintBridge.Text.Quoted

/-!
# Printing JSON

Items are separated by a comma and a space, keys from values by a colon and a space. Strings are
written in ASCII: a quote, a backslash and five control characters have short escapes, and every other
code point outside `U+0020` to `U+007E` is written by its UTF-16 units.
-/

namespace LintBridge.Json

/-- The escape of one UTF-16 unit. -/
def unitEscape (u : Nat) : List Char := '\\' :: 'u' :: Hex.lower 4 u

/-- One character inside a string. -/
def printChar (c : Char) : List Char :=
  if c = '"' then ['\\', '"']
  else if c = '\\' then ['\\', '\\']
  else if c = '\n' then ['\\', 'n']
  else if c = '\r' then ['\\', 'r']
  else if c = '\t' then ['\\', 't']
  else if c = '\x08' then ['\\', 'b']
  else if c = '\x0c' then ['\\', 'f']
  else if 0x20 ≤ c.toNat ∧ c.toNat < 0x7F then [c]
  else (Text.charUnits c).flatMap unitEscape

/-- One code point inside a string. -/
def printCode : Text.Code → List Char
  | .char c => printChar c
  | .lone u => unitEscape u.unit

@[simp] theorem flatMap_printCode_ofString (s : String) :
    (Text.Codes.ofString s).flatMap printCode = s.toList.flatMap printChar := List.flatMap_map ..

def printString (s : Text.Codes) : List Char := '"' :: (s.flatMap printCode ++ ['"'])

/-- The decimal digits of an integer, with a minus sign if it is negative. -/
def printInt (i : Int) : List Char :=
  if i < 0 then '-' :: Nat.toDigits 10 i.natAbs else Nat.toDigits 10 i.natAbs

mutual

/-- The text of a value. -/
def print : Value → List Char
  | .null => ['n', 'u', 'l', 'l']
  | .bool true => ['t', 'r', 'u', 'e']
  | .bool false => ['f', 'a', 'l', 's', 'e']
  | .int i => printInt i
  | .float x => x.text "Infinity".toList "NaN".toList
  | .text s => printString s
  | .list [] => ['[', ']']
  | .list (item :: items) => '[' :: (print item ++ printItems items)
  | .object [] => ['{', '}']
  | .object ((key, value) :: members) =>
    '{' :: (printString key ++ ':' :: ' ' :: (print value ++ printMembers members))

/-- The items after the first, and the closing bracket. -/
def printItems : List Value → List Char
  | [] => [']']
  | item :: items => ',' :: ' ' :: (print item ++ printItems items)

/-- The members after the first, and the closing brace. -/
def printMembers : List (Text.Codes × Value) → List Char
  | [] => ['}']
  | (key, value) :: members =>
    ',' :: ' ' :: (printString key ++ ':' :: ' ' :: (print value ++ printMembers members))

end

/-- The text of a value as a string. -/
def Value.toJson (v : Value) : String := String.ofList (print v)

end LintBridge.Json
