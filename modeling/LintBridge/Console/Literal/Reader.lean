-- SUMMARY: Reading of texts as literals.
import LintBridge.Console.Literal.Filled
import LintBridge.Console.Literal.Lexeme
import LintBridge.Console.Literal.Match

/-!
# Reading literals

A text is cut into tokens, the tokens are matched against the grammar, and what they make has to be a
literal. An expression within a quoted text is read in the same way, as if it stood in parentheses.
-/

namespace LintBridge.Console.Literal

/-- The parts that a rule yields for a text whose first line has a number. `depth` bounds how deep quoted
texts may stand within each other. -/
def readText : Nat → Rule → Nat → List Char → Except Fault (List Part)
  | 0, _, _, _ => .error .tooDeep
  | depth + 1, r, line, s =>
    let (lexemes, broken) := lexemes line s
    let readInner (line : Nat) (s : List Char) : Except Fault Unit := do
      let _ ← (readText depth .inner line ('(' :: s ++ [')'])).mapError Fault.quotedWithin
    { lexemes := lexemes.toArray, broken, join := joinQuotes readInner : Source }.run r

/-- Refuses a text that is no literal. -/
def checkText (s : List Char) : Except Fault Unit := do
  if s.contains '\x00' then throw .nulCharacter
  match Part.exprs (← readText (s.length + 1) .whole 1 s) with
  | [e] => e.check
  | _ => throw .disorder

end LintBridge.Console.Literal
