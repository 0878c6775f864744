-- SUMMARY: Quoted texts that hold expressions in braces.
import LintBridge.Console.Literal.Expr

/-!
# Filled texts

A quoted text can hold expressions in braces, each with a conversion and a format, which can hold
expressions itself. A doubled brace stands for one. The expressions are found by their brackets and quotes
alone, and are then read by a reader that is given.
-/

namespace LintBridge.Console.Literal

/-! ## Plain parts -/

/-- A part of a filled text without expressions, in reverse, and what follows it. -/
structure PlainPart where
  reversed : List Char
  rest : List Char
  /-- The part ends in a brace that is doubled, so another plain part follows. -/
  isDoubled : Bool
  deriving Repr

/-- A plain part that ends before a brace, which stands before the rest. Only braces of the text itself
can be doubled, not those of a format. -/
def PlainPart.atBrace (isFormat : Bool) (reversed : List Char) (brace : Char) (rest : List Char) :
    Except Fault PlainPart :=
  if !isFormat && rest.head? = some brace then
    .ok { reversed := brace :: reversed, rest := rest.drop 1, isDoubled := true }
  else if !isFormat && brace = '\x7d' then .error (.fill .loneBrace)
  else .ok { reversed, rest := brace :: rest, isDoubled := false }

/-- The plain part at the beginning of a text, after some characters of it. The braces of an escape by name
are part of it. -/
def plainPart (raw isFormat inName : Bool) (reversed : List Char) : List Char → Except Fault PlainPart
  | [] => .ok { reversed, rest := [], isDoubled := false }
  | '\\' :: c :: rest =>
    if inName || raw then plainPart raw isFormat inName ('\\' :: reversed) (c :: rest)
    else if c = 'N' then
      match rest with
      | d :: rest => plainPart raw isFormat (d = '\x7b') (d :: 'N' :: '\\' :: reversed) rest
      | [] => .ok { reversed := 'N' :: '\\' :: reversed, rest := [], isDoubled := false }
    else if c = '\x7b' ∨ c = '\x7d' then PlainPart.atBrace isFormat ('\\' :: reversed) c rest
    else plainPart raw isFormat false (c :: '\\' :: reversed) rest
  | c :: rest =>
    if inName then plainPart raw isFormat (c ≠ '\x7d') (c :: reversed) rest
    else if c = '\x7b' ∨ c = '\x7d' then PlainPart.atBrace isFormat reversed c rest
    else plainPart raw isFormat false (c :: reversed) rest

/-! ## Expressions -/

/-- The deepest that brackets may stand within each other in an expression. -/
def maxFillNesting : Nat := 200

/-- What is read of an expression: its characters in reverse, its open brackets, the last one first, and
the quote that it stands in, which may be a triple one. -/
structure FillProgress where
  reversed : List Char
  opened : List Char
  quote : Option (Char × Bool)
  deriving Repr

namespace FillProgress

/-- Some more characters, the last one first. -/
def push (p : FillProgress) (more : List Char) : FillProgress := { p with reversed := more ++ p.reversed }

/-- The end of the text within an expression. -/
def atEnd (p : FillProgress) : FillFault :=
  if p.quote.isSome then .unterminated
  else match p.opened with
    | bracket :: _ => .unmatched bracket
    | [] => .unclosed

/-- The progress after a bracket. -/
def bracket (p : FillProgress) (c : Char) : Except FillFault FillProgress :=
  if c = '(' ∨ c = '[' ∨ c = '\x7b' then
    if maxFillNesting ≤ p.opened.length then .error .tooManyBrackets
    else .ok { p.push [c] with opened := c :: p.opened }
  else
    match p.opened with
    | [] => .error (.unmatched c)
    | opening :: opened =>
      if (opening, c) ∈ [('(', ')'), ('[', ']'), ('\x7b', '\x7d')] then .ok { p.push [c] with opened }
      else .error (.mismatched c opening)

end FillProgress

/-- The expression at the beginning of a text, up to a sign that ends it and stands before the rest. -/
def fillExpression (p : FillProgress) : List Char → Except FillFault (List Char × List Char)
  | [] => .error p.atEnd
  | c :: rest =>
    if c = '\\' then .error .backslash
    else
      match p.quote with
      | some (quote, triple) =>
        match c == quote, triple, rest with
        | true, false, rest => fillExpression { p.push [c] with quote := none } rest
        | true, true, d :: e :: more =>
          if d = quote ∧ e = quote then fillExpression { p.push [e, d, c] with quote := none } more
          else fillExpression (p.push [c]) (d :: e :: more)
        | _, _, rest => fillExpression (p.push [c]) rest
      | none =>
        if c = '\'' ∨ c = '"' then
          match rest with
          | d :: e :: more =>
            if d = c ∧ e = c then fillExpression { p.push [e, d, c] with quote := some (c, true) } more
            else fillExpression { p.push [c] with quote := some (c, false) } (d :: e :: more)
          | rest => fillExpression { p.push [c] with quote := some (c, false) } rest
        else if c = '#' then .error .comment
        else if p.opened.isEmpty && "!:\x7d=<>".contains c then
          match rest with
          | '=' :: more =>
            if c = ':' ∨ c = '\x7d' then .ok (p.reversed.reverse, c :: rest)
            else fillExpression (p.push ['=', c]) more
          | rest =>
            if c = '<' ∨ c = '>' then fillExpression (p.push [c]) rest
            else .ok (p.reversed.reverse, c :: rest)
        else if "()[]\x7b\x7d".contains c then do fillExpression (← p.bracket c) rest
        else fillExpression (p.push [c]) rest

/-! ## Texts -/

/-- A character that an expression can have around it. -/
def isFillBlank (c : Char) : Bool := c == ' ' || c == '\t' || c == '\n' || c == '\x0c'

/-- What follows the equals sign after an expression, which shows the expression itself, and the blanks
after it. -/
def afterEquals : List Char → List Char
  | '=' :: rest => rest.dropWhile fun c => isFillBlank c || c == '\r' || c == '\x0b'
  | rest => rest

/-- What follows the conversion after an expression. -/
def afterConversion : List Char → Except FillFault (List Char)
  | ['!'] => .error .unclosed
  | '!' :: c :: rest => if c = 's' ∨ c = 'r' ∨ c = 'a' then .ok rest else .error .conversion
  | rest => .ok rest

/-- Refuses a filled text with something wrong in it; what follows the text, or the format, is left. The
reader of expressions is given the line of one and its characters. `fuel` bounds the parts by the length of
the text. -/
def checkFilled (read : Nat → List Char → Except Fault Unit) (lineBefore : List Char → Nat) (raw : Bool) :
    Nat → Nat → List Char → Except Fault (List Char)
  | 0, _, _ => .error (.fill .unclosed)
  | fuel + 1, depth, s => do
    let plain ← plainPart raw (0 < depth) false [] s
    if !raw then
      if let some fault := escapeFault? 0 plain.reversed.reverse then throw (.quote fault)
    match plain.isDoubled, plain.rest with
    | true, rest => checkFilled read lineBefore raw fuel depth rest
    | false, '\x7b' :: inner =>
      if 2 ≤ depth then throw (.fill .tooDeep)
      let (e, rest) ← (fillExpression { reversed := [], opened := [], quote := none } inner).mapError .fill
      if e.all isFillBlank then throw (.fill (.missing (rest.headD '\x7d')))
      read (lineBefore plain.rest) e
      let rest := afterEquals rest
      if rest.isEmpty then throw (.fill .unclosed)
      let rest ← match ← (afterConversion rest).mapError .fill with
        | [':'] => throw (.fill .unclosed)
        | ':' :: format => checkFilled read lineBefore raw fuel (depth + 1) format
        | rest => pure rest
      match rest with
      | '\x7d' :: rest => checkFilled read lineBefore raw fuel depth rest
      | _ => throw (.fill .unclosed)
    | false, rest => if depth = 0 || rest.head? = some '\x7d' then return rest else throw (.fill .unclosed)

/-- Refuses a quoted text with a line that has something wrong in it, after one of a kind. -/
def Quoted.check (read : Nat → List Char → Except Fault Unit) (bytes : Bool) (line : Nat) (q : Quoted) :
    Except Fault Unit := do
  if !q.filled then
    if let some fault := q.fault? then throw (.quote fault)
  if q.bytes ≠ bytes then throw .mixedQuotes
  if q.filled then
    let lineBefore (rest : List Char) : Nat := line + (q.content.count '\n' - rest.count '\n')
    let _ ← checkFilled read lineBefore q.raw (q.content.length + 1) 0 q.content

/-- The expression that quoted texts with their lines make side by side. -/
def joinQuotes (read : Nat → List Char → Except Fault Unit) (quotes : List (Nat × Quoted)) :
    Except Fault Expr := do
  let bytes := quotes.head?.any (·.2.bytes)
  for (line, q) in quotes do
    q.check read bytes line
  return if quotes.any (·.2.filled) then .other "f-string expression" else .constant "literal"

end LintBridge.Console.Literal
