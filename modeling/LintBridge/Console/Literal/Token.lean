-- SUMMARY: Tokens of literals, and the faults of their spelling.
import LintBridge.Console.Literal.Escape
import LintBridge.Number.Decimal
import LintBridge.Text.Printable

/-!
# Tokens

A text of literals is made of names, numbers, quoted texts and signs. A fault of spelling ends the tokens of
a text. Most of these faults win over all that is wrong with the order of the tokens before them; a bracket
that is never closed, or a backslash at a wrong place, is told only if it is reached.
-/

namespace LintBridge.Console.Literal

/-- A quoted text: its characters between the quotes, and what its mark says of them. -/
structure Quoted where
  /-- The text holds bytes. -/
  bytes : Bool
  /-- Backslashes are characters like all others. -/
  raw : Bool
  /-- The text holds expressions in braces. -/
  filled : Bool
  content : List Char
  deriving DecidableEq, Repr

/-- What is wrong with a text that holds no expressions. -/
def Quoted.fault? (q : Quoted) : Option QuoteFault :=
  if q.bytes && q.content.any fun c => 0x80 ≤ c.toNat then some .notBytes
  else if q.raw then none
  else if q.bytes then byteFault? 0 q.content
  else escapeFault? 0 q.content

/-- A number: whether it is imaginary, whether it is an integer above all fractions that can be written,
and what is wrong with the count of its digits. -/
structure Numeral where
  imaginary : Bool
  huge : Bool
  fault : Option Decimal.TooManyDigits
  deriving DecidableEq, Repr

/-- A token. -/
inductive Token where
  /-- A name, or a word with a meaning of its own. -/
  | word (s : String)
  | number (n : Numeral)
  | quoted (q : Quoted)
  | sign (s : String)
  /-- The end of a line outside of brackets. -/
  | lineBreak
  /-- Blanks at the beginning of a line outside of brackets. -/
  | indent
  | finish
  deriving DecidableEq, Repr

/-- A token with its first line, and with the number of brackets that are open after it. -/
structure Lexeme where
  token : Token
  line : Nat
  level : Nat
  deriving DecidableEq, Repr

/-! ## Faults of spelling -/

/-- What is wrong with the spelling of a text. -/
inductive Misspelling where
  | unmatched (bracket : Char)
  /-- A bracket is closed by one of another kind. The line of the opening one is told if it is another. -/
  | mismatched (closing opening : Char) (line : Option Nat)
  | tooManyBrackets
  | unterminated (triple : Bool) (line : Nat)
  /-- A number of a kind goes on where it should end, or has nothing where a digit should be. -/
  | number (kind : String)
  /-- A digit is too large for the base of its number. -/
  | digit (c : Char) (kind : String)
  | leadingZeros
  | character (c : Char)
  /-- The text ends in a bracket. -/
  | unclosed (bracket : Char)
  | afterBackslash
  | nothingAfterBackslash
  deriving DecidableEq, Repr

/-- The number of a character in at least four hexadecimal digits. -/
def codePoint (c : Char) : String :=
  let n := c.toNat
  String.ofList (Hex.upper (if n < 0x10000 then 4 else if n < 0x100000 then 5 else 6) n)

namespace Misspelling

def message : Misspelling → String
  | .unmatched bracket => s!"unmatched '{bracket}'"
  | .mismatched closing opening line =>
    s!"closing parenthesis '{closing}' does not match opening parenthesis '{opening}'" ++
      line.elim "" fun line => s!" on line {line}"
  | .tooManyBrackets => "too many nested parentheses"
  | .unterminated triple line =>
    let kind := if triple then "triple-quoted string" else "string"
    s!"unterminated {kind} literal (detected at line {line})"
  | .number kind => s!"invalid {kind} literal"
  | .digit c kind => s!"invalid digit '{c}' in {kind} literal"
  | .leadingZeros =>
    "leading zeros in decimal integer literals are not permitted; use an 0o prefix for octal integers"
  | .character c =>
    let code := codePoint c
    if Text.isPrintable c then s!"invalid character '{c}' (U+{code})"
    else s!"invalid non-printable character U+{code}"
  | .unclosed bracket => s!"'{bracket}' was never closed"
  | .afterBackslash => "unexpected character after line continuation character"
  | .nothingAfterBackslash => "unexpected EOF while parsing"

/-- Whether a fault is told even if something is wrong before it. -/
def isGrave : Misspelling → Bool
  | .unclosed _ | .afterBackslash | .nothingAfterBackslash => false
  | _ => true

end Misspelling

/-- The place of a fault of spelling: its cause, and the innermost open bracket with its line. -/
structure Spot where
  cause : Misspelling
  opened : Option (Char × Nat)
  deriving DecidableEq, Repr

end LintBridge.Console.Literal
