-- SUMMARY: Matching of tokens against the rules.
import LintBridge.Console.Literal.Rules

/-!
# Matching

A rule is matched at a place among the tokens: it fails, or yields parts and the place behind what it has
passed, or finds a fault that ends all matching. Outcomes are remembered by place and rule. How far the
tokens were looked at is kept, since it decides which of two faults is told.
-/

namespace LintBridge.Console.Literal

/-- The tokens that are matched, what is wrong with the spelling behind them, and how the quoted texts side
by side are read as one expression. -/
structure Source where
  lexemes : Array Lexeme
  broken : Option Spot
  join : List (Nat × Quoted) → Except Fault Expr

/-- What a rule comes to at a place: its parts and the place behind them, if it matches. -/
abbrev Outcome := Option (List Part × Nat)

/-- What is known during matching: the furthest place that was looked at, and outcomes by place. -/
structure Memory where
  furthest : Nat
  outcomes : Array (List (Rule × Outcome))

abbrev Matching := EStateM Fault Memory

/-! ## Memory -/

/-- The outcome of a rule at a place, if it is known. -/
def Memory.outcome? (m : Memory) (r : Rule) (place : Nat) : Option Outcome :=
  (m.outcomes.getD place []).lookup r

/-- The memory with the outcome of a rule at a place. -/
def Memory.keep (m : Memory) (r : Rule) (place : Nat) (outcome : Outcome) : Memory :=
  { m with outcomes := m.outcomes.modify place fun known => (r, outcome) :: known.filter (·.1 ≠ r) }

/-! ## Tokens -/

/-- The token at a place. Where the spelling is broken, that is a fault. -/
def Source.look (source : Source) (place : Nat) : Matching Lexeme := do
  modify fun m => { m with furthest := max m.furthest place }
  match source.lexemes[place]?, source.broken with
  | some lexeme, _ => return lexeme
  | none, some spot => throw (.misspelled spot.cause)
  | none, none => throw .disorder

/-- The parts that an item yields for a token, if it matches. -/
def Item.ofToken? : Item → Token → Option (List Part)
  | .text s, .sign t | .text s, .word t => if s = t then some [] else none
  | .name, .word s => if isName s then some [.expr (.name s)] else none
  | .softWord, .word s => if softWords.contains s then some [] else none
  | .number, .number n => some [.expr (.number n.imaginary n.huge)]
  | .quoted, .quoted _ | .lineBreak, .lineBreak | .finish, .finish => some []
  | _, _ => none

/-- An item that is a single token. -/
def Source.matchToken (source : Source) (item : Item) (place : Nat) : Matching Outcome := do
  let lexeme ← source.look place
  match lexeme.token, (item.ofToken? lexeme.token).map (·, place + 1) with
  | .number { fault := some cause, .. }, some _ => throw (.tooManyDigits cause)
  | _, outcome => return outcome

/-- The quoted texts from a place on, with their lines. `fuel` bounds them by the number of tokens. -/
def Source.quotesFrom (source : Source) : Nat → Nat → Matching (List (Nat × Quoted))
  | 0, _ => return []
  | fuel + 1, place => do
    match ← source.look place with
    | { token := .quoted q, line, .. } => return (line, q) :: (← source.quotesFrom fuel (place + 1))
    | _ => return []

/-- The quoted texts side by side at a place, as one expression. -/
def Source.matchQuotes (source : Source) (place : Nat) : Matching Outcome := do
  let quotes ← source.quotesFrom source.lexemes.size place
  if quotes.isEmpty then return none
  match source.join quotes with
  | .ok e => return some ([.expr e], place + quotes.length)
  | .error fault => throw fault

/-! ## Items -/

/-- Matches as often as possible. `fuel` bounds the matches by the number of tokens. -/
def matchMany (step : Nat → Matching Outcome) : Nat → List Part → Nat → Matching Outcome
  | 0, parts, place => return some (parts, place)
  | fuel + 1, parts, place => do
    match ← step place with
    | some (more, place) => matchMany step fuel (parts ++ more) place
    | none => return some (parts, place)

section Items

variable (source : Source) (matchRule : Rule → Nat → Matching Outcome)

mutual

/-- An item at a place. -/
def matchItem : Item → Nat → Matching Outcome
  | .rule r, place => matchRule r place
  | .quotes, place => source.matchQuotes place
  | .optional items, place => do return some ((← matchItems items [] place).getD ([], place))
  | .many items, place => matchMany (matchItems items []) (source.lexemes.size + 1) [] place
  | .repeated items, place => do
    match ← matchItems items [] place with
    | some (parts, place) => matchMany (matchItems items []) (source.lexemes.size + 1) parts place
    | none => return none
  | .separated items, place => do
    let next (place : Nat) : Matching Outcome := do
      match ← source.matchToken (.text ",") place with
      | some (_, place) => matchItems items [] place
      | none => return none
    match ← matchItems items [] place with
    | some (parts, place) => matchMany next (source.lexemes.size + 1) parts place
    | none => return none
  | .oneOf choices, place => matchChoice choices place
  | .ahead items, place => do return (← matchItems items [] place).map fun _ => ([], place)
  | .notAhead items, place => do
    return if (← matchItems items [] place).isSome then none else some ([], place)
  | item, place => source.matchToken item place

/-- Items one after the other, with the parts of those before them. -/
def matchItems : List Item → List Part → Nat → Matching Outcome
  | [], parts, place => return some (parts, place)
  | item :: items, parts, place => do
    match ← matchItem item place with
    | some (more, place) => matchItems items (parts ++ more) place
    | none => return none

/-- The first of some choices that matches. -/
def matchChoice : List (List Item) → Nat → Matching Outcome
  | [], _ => return none
  | items :: choices, place => do
    match ← matchItems items [] place with
    | some outcome => return some outcome
    | none => matchChoice choices place

end

/-- The first of some productions that matches. Without search those that only look for faults are left
out. -/
def matchProductions (searches : Bool) : List Production → Nat → Matching Outcome
  | [], _ => return none
  | a :: productions, place => do
    if a.isSearch && !searches then matchProductions searches productions place
    else
      match ← matchItems source matchRule a.items [] place with
      | none => matchProductions searches productions place
      | some (parts, next) =>
        match ← matchItems source matchRule a.sure parts next with
        | none => return none
        | some (parts, next) =>
          let level := (source.lexemes[next - 1]?).elim 0 Lexeme.level
          match a.verdict parts level with
          | .yields parts => return some (parts, next)
          | .refuses => return none
          | .finds fault => throw fault

end Items

/-! ## Rules -/

/-- Lets the match of a rule at a place grow: each try may begin with the last match. `fuel` bounds the
tries by the number of tokens. -/
def grow (attempt : Matching Outcome) (r : Rule) (place : Nat) : Nat → Outcome → Matching Outcome
  | 0, last => return last
  | fuel + 1, last => do
    modify (·.keep r place last)
    let next ← attempt
    if next.elim 0 (·.2) ≤ last.elim place (·.2) then return last else grow attempt r place fuel next

/-- The deepest that rules may stand within each other. -/
def maxDepth : Nat := 6000

/-- A rule at a place, with or without search for faults. `depth` bounds how deep rules may stand within
each other. -/
def matchRule (source : Source) : Nat → Bool → Rule → Nat → Matching Outcome
  | 0, _, _, _ => throw .tooDeep
  | depth + 1, searches, r, place => do
    if r.isRemembered || r.isLeftRecursive then
      let _ ← source.look place
      if let some outcome := (← get).outcome? r place then return outcome
    let searches := searches && r != .soundExpression
    let attempt := matchProductions source (matchRule source depth searches) searches r.productions place
    if r.isLeftRecursive then grow attempt r place (source.lexemes.size + 1) none
    else
      let outcome ← attempt
      if r.isRemembered then modify (·.keep r place outcome)
      return outcome

/-! ## Faults -/

/-- A fault that was found, or a graver one of the spelling further on: one that is told in any case, or a
bracket that is never closed and stands in a line before the last one looked at. -/
def Source.graver (source : Source) (furthest : Nat) (found : Fault) : Fault :=
  match source.broken with
  | none => found
  | some spot =>
    let line := (source.lexemes[furthest]?).elim 0 Lexeme.line
    if source.lexemes.size ≤ furthest || !found.isSyntactic then found
    else if spot.cause.isGrave then .misspelled spot.cause
    else
      match spot.opened with
      | some (bracket, opening) =>
        if opening < line then .misspelled (.unclosed bracket) else found
      | none => found

/-- The parts that a rule yields for all tokens. If it does not match, the rules that look for faults say
why. -/
def Source.run (source : Source) (r : Rule) : Except Fault (List Part) :=
  let start : Memory := { furthest := 0, outcomes := Array.replicate source.lexemes.size [] }
  match (matchRule source maxDepth false r 0).run start with
  | .ok (some (parts, _)) _ => .ok parts
  | .error fault m => .error (source.graver m.furthest fault)
  | .ok none m =>
    match (matchRule source maxDepth true r 0).run { start with furthest := m.furthest } with
    | .error fault n => .error (source.graver n.furthest fault)
    | .ok _ n =>
      let last := (source.lexemes[m.furthest]?).map Lexeme.token
      .error (if last = some .indent then .indented else source.graver n.furthest .disorder)

end LintBridge.Console.Literal
