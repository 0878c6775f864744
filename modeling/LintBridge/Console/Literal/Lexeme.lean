-- SUMMARY: The tokens of a text, with their lines and brackets.
import LintBridge.Console.Literal.Number
import LintBridge.Text.Blank
import LintBridge.Text.Identifier

/-!
# Lexemes

A text is cut into tokens from left to right, each as long as it can be. Brackets have to match each other;
line breaks count only outside of them, and only after a token. What is wrong with the spelling ends the
tokens at its place.
-/

namespace LintBridge.Console.Literal

/-! ## Names and quoted texts -/

/-- What may stand in front of a quote, in lower case. -/
def quoteMarks : List String := ["", "b", "u", "r", "f", "br", "rb", "fr", "rf"]

/-- What follows a text up to its closing quotes, and the number of lines begun in it. A single quote
does not reach beyond its line. -/
def dropQuoted (quote : Char) (triple : Bool) (line : Nat) :
    List Char → Except Misspelling (Nat × List Char)
  | [] => .error (.unterminated triple line)
  | '\\' :: '\n' :: rest => dropQuoted quote triple (line + 1) rest
  | '\\' :: _ :: rest => dropQuoted quote triple line rest
  | c :: rest =>
    if c = '\n' then
      if triple then dropQuoted quote triple (line + 1) rest else .error (.unterminated triple line)
    else if c ≠ quote then dropQuoted quote triple line rest
    else if !triple then .ok (line, rest)
    else
      match rest with
      | d :: e :: after =>
        if d = quote ∧ e = quote then .ok (line, after) else dropQuoted quote triple line rest
      | _ => dropQuoted quote triple line rest

/-- A quoted text, with its mark before it. -/
def readQuoted (line : Nat) (mark : String) (quote : Char) (s : List Char) :
    Except Misspelling (Quoted × Nat × List Char) := do
  let (opening, begun) := if [quote, quote].isPrefixOf s then (3, s.drop 2) else (1, s)
  let (line, rest) ← dropQuoted quote (opening = 3) line begun
  let content := begun.take (begun.length - rest.length - opening)
  return ({ bytes := mark.contains 'b', raw := mark.contains 'r', filled := mark.contains 'f', content },
    line, rest)

/-- Refuses a name with a character that cannot stand in it. -/
def readName (s : List Char) : Except Misspelling Token :=
  match Text.identifierFault? s with
  | some c => .error (.character c)
  | none => .ok (.word (String.ofList s))

/-! ## Signs and brackets -/

/-- The signs of more than one character, the longer ones first. -/
def longSigns : List String :=
  ["**=", "//=", ">>=", "<<=", "...", "!=", "%=", "&=", "**", "*=", "+=", "-=", "->", "//", "/=", ":=",
    "<<", "<=", "<>", "==", ">=", ">>", "@=", "^=", "|="]

/-- The deepest that brackets may stand within each other. -/
def maxNesting : Nat := 200

/-- The closing bracket of an opening one. -/
def closing? : Char → Option Char
  | '(' => some ')'
  | '[' => some ']'
  | '\x7b' => some '\x7d'
  | _ => none

def isBracket (c : Char) : Bool := "()[]\x7b\x7d".contains c

/-- The brackets that are open after another bracket, each with its line; the last one comes first. A
bracket that matches no other one closes the last one nevertheless. -/
def afterBracket (opened : List (Char × Nat)) (line : Nat) (c : Char) :
    List (Char × Nat) × Option Misspelling :=
  if (closing? c).isSome then
    if maxNesting ≤ opened.length then (opened, some .tooManyBrackets) else ((c, line) :: opened, none)
  else
    match opened with
    | [] => ([], some (.unmatched c))
    | (opening, begun) :: opened =>
      if closing? opening = some c then (opened, none)
      else (opened, some (.mismatched c opening (if begun = line then none else some begun)))

/-! ## Texts -/

/-- A character that stands between tokens. -/
def isGap (c : Char) : Bool := c == ' ' || c == '\t' || c == '\x0c'

/-- What is read of a text so far: its tokens in reverse, the current line and whether it has a token, and
the open brackets with their lines, the last one first. -/
structure Progress where
  lexemes : List Lexeme
  line : Nat
  begun : Bool
  opened : List (Char × Nat)
  deriving Repr

namespace Progress

/-- One more token. -/
def push (p : Progress) (token : Token) : Progress :=
  { p with lexemes := { token, line := p.line, level := p.opened.length } :: p.lexemes, begun := true }

/-- The end of a line. -/
def breakLine (p : Progress) : Progress :=
  let p := if p.begun && p.opened.isEmpty then p.push .lineBreak else p
  { p with line := p.line + 1, begun := false }

/-- The tokens with a fault after them. -/
def stop (p : Progress) (cause : Misspelling) : List Lexeme × Option Spot :=
  (p.lexemes.reverse, some { cause, opened := p.opened.head? })

/-- The tokens at the end of the text. -/
def finish (p : Progress) : List Lexeme × Option Spot :=
  match p.opened with
  | (bracket, _) :: _ => p.stop (.unclosed bracket)
  | [] => ((p.push .finish).lexemes.reverse, none)

end Progress

/-- The tokens of the rest of a text, and what is wrong with its spelling. `fuel` bounds the tokens by the
length of the text. -/
def lexemesFrom (p : Progress) : Nat → List Char → List Lexeme × Option Spot
  | 0, _ => p.finish
  | _, [] => p.finish
  | fuel + 1, c :: rest =>
    if isGap c then
      let after := rest.dropWhile isGap
      let isIndent := (c :: rest.takeWhile isGap).getLast? ≠ some '\x0c' &&
        !p.begun && p.opened.isEmpty && after.head?.any fun d => d ≠ '\n' && d ≠ '#'
      lexemesFrom (if isIndent then p.push .indent else p) fuel after
    else if c = '\n' then lexemesFrom p.breakLine fuel rest
    else if c = '#' then lexemesFrom p fuel (rest.dropWhile (· ≠ '\n'))
    else if c = '\\' then
      match rest with
      | ['\n'] => if p.opened.isEmpty then p.stop .nothingAfterBackslash else p.finish
      | '\n' :: rest => lexemesFrom { p with line := p.line + 1 } fuel rest
      | _ => p.stop .afterBackslash
    else if Decimal.isDigit c || (c == '.' && rest.head?.any Decimal.isDigit) then
      match readNumber (c :: rest) with
      | .ok (number, rest) => lexemesFrom (p.push (.number number)) fuel rest
      | .error cause => p.stop cause
    else if isBracket c then
      match afterBracket p.opened p.line c with
      | (opened, none) => lexemesFrom ({ p with opened }.push (.sign (String.singleton c))) fuel rest
      | (opened, some cause) => { p with opened }.stop cause
    else
      let word := (c :: rest).takeWhile isNamePart
      let after := (c :: rest).dropWhile isNamePart
      let mark := String.ofList (word.map Char.toLower)
      let quote := if quoteMarks.contains mark then after.head? else none
      if quote = some '\'' || quote = some '"' then
        match readQuoted p.line mark (quote.getD '"') (after.drop 1) with
        | .ok (quoted, line, rest) => lexemesFrom { p.push (.quoted quoted) with line } fuel rest
        | .error cause => p.stop cause
      else if !word.isEmpty then
        match readName word with
        | .ok token => lexemesFrom (p.push token) fuel after
        | .error cause => p.stop cause
      else if !Text.isPrintable c then p.stop (.character c)
      else
        let sign := (longSigns.find? (·.toList.isPrefixOf (c :: rest))).getD (String.singleton c)
        lexemesFrom (p.push (.sign sign)) fuel ((c :: rest).drop sign.length)

/-- The tokens of a text whose first line has a number, and what is wrong with its spelling. -/
def lexemes (line : Nat) (s : List Char) : List Lexeme × Option Spot :=
  let s := Text.unifyNewlines s
  lexemesFrom { lexemes := [], line, begun := false, opened := [] } (s.length + 1) s

end LintBridge.Console.Literal
