-- SUMMARY: Quoted texts, as messages show them.
import LintBridge.Number.Hex
import LintBridge.Text.Codes
import LintBridge.Text.Printable

/-!
# Quoted texts

A text is quoted by single quotes, or by double quotes when it holds a single one and no double one.
The quote in use and the backslash are written after a backslash, line feed, carriage return and tab
by their letters, and other characters that are not printable by their number, as is a surrogate without
its partner.
-/

namespace LintBridge.Text

/-- The quote for a text. -/
def quoteFor (s : Codes) : Char := if s.contains (.char '\'') && !s.contains (.char '"') then '"' else '\''

/-- One character between quotes. -/
def quotedChar (quote c : Char) : List Char :=
  if c = quote ∨ c = '\\' then ['\\', c]
  else if c = '\n' then ['\\', 'n']
  else if c = '\r' then ['\\', 'r']
  else if c = '\t' then ['\\', 't']
  else if isPrintable c then [c]
  else if c.toNat < 0x100 then '\\' :: 'x' :: Hex.lower 2 c.toNat
  else if c.toNat < 0x10000 then '\\' :: 'u' :: Hex.lower 4 c.toNat
  else '\\' :: 'U' :: Hex.lower 8 c.toNat

/-- One code point between quotes. -/
def quotedCode (quote : Char) : Code → List Char
  | .char c => quotedChar quote c
  | .lone u => '\\' :: 'u' :: Hex.lower 4 u.unit

/-- The quoted form of a text. -/
def quoted (s : Codes) : List Char :=
  let quote := quoteFor s
  quote :: (s.flatMap (quotedCode quote) ++ [quote])

/-- The quoted form of a text, as a string. -/
def quotedString (s : Codes) : String := String.ofList (quoted s)

end LintBridge.Text
