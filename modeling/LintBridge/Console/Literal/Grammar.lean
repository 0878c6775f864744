-- SUMMARY: The form of grammar rules, and what they yield.
import LintBridge.Console.Literal.Expr

/-!
# Grammars

A rule has productions, which are tried in order; the first one whose items match is taken. A production
yields parts of an expression, or finds a fault. Productions that only look for faults are tried when the
text is known to be no expression.
-/

namespace LintBridge.Console.Literal

/-! ## Words -/

/-- The words that are no names, but for those for values. -/
def keywords : List String :=
  ["and", "as", "assert", "async", "await", "break", "class", "continue", "def", "del", "elif", "else",
    "except", "finally", "for", "from", "global", "if", "import", "in", "is", "lambda", "nonlocal", "not",
    "or", "pass", "raise", "return", "try", "while", "with", "yield"]

/-- The names that begin a clause at some places. -/
def softWords : List String := ["_", "case", "match"]

/-- The names of old commands, which took arguments without brackets. -/
def oldCommands : List String := ["print", "exec"]

def isName (s : String) : Bool := !keywords.contains s && !constants.contains s

/-! ## Rules -/

/-- The names of the rules. -/
inductive Rule where
  -- texts
  | whole | inner
  -- expressions
  | expressions | expression | soundExpression | yielded | starExpressions | starExpression
  | members | member | assignment | namedExpression
  | disjunction | conjunction | inversion | comparison | comparisonTail
  | bitwiseOr | bitwiseXor | bitwiseAnd | shift | sum | term | factor | power | awaited | primary | atom
  -- displays and comprehensions
  | quotedTexts | group | tuple | set | dict | pairs | pairOrUnpacked | pair
  | clauses | clause | setComprehension | dictComprehension | generator
  -- arguments and parameters
  | argumentList | arguments | lateArguments | positional | starred | namedOrStarred | namedOrUnpacked
  | lambda | parameterList | parameters | required | defaulted | parameter
  | slashRequired | slashDefaulted | starParameters | doubleStarParameter | default
  -- what is assigned to
  | targets | target | plainTarget | targetAtom | targetPrimary
  -- faults
  | oldCommand | faultyExpression | faultyNamedExpression | faultyGroup | faultyComprehension
  | faultyDictComprehension | faultyPairs | faultyPair | faultyTarget | faultyArguments | faultyNamed
  | faultyParameters | lateDefaults | faultyStar | faultyDoubleStar | faultyDefault
  deriving DecidableEq, Repr

/-- A step of a production. -/
inductive Item where
  /-- A sign, or a word that is no name. -/
  | text (s : String)
  | name
  /-- A name that begins a clause at some places. -/
  | softWord
  | number
  /-- A quoted text, whatever it holds. -/
  | quoted
  /-- Quoted texts side by side, with nothing wrong in them. -/
  | quotes
  | lineBreak
  | finish
  | rule (r : Rule)
  | optional (items : List Item)
  /-- The items as often as they match. -/
  | many (items : List Item)
  /-- The items as often as they match, but once at least. -/
  | repeated (items : List Item)
  /-- The same with commas between. -/
  | separated (items : List Item)
  | oneOf (choices : List (List Item))
  /-- The items match here, but are not passed. -/
  | ahead (items : List Item)
  | notAhead (items : List Item)
  deriving Repr

instance : Coe String Item := ⟨.text⟩

/-! ## Yields -/

/-- The kinds of arguments of a call. -/
inductive ArgumentKind where
  | positional | named
  /-- Named arguments that are taken from elsewhere. -/
  | unpacked
  deriving DecidableEq, Repr

/-- What an item yields. -/
inductive Part where
  | expr (e : Expr)
  /-- A member of a dictionary. -/
  | pair (key : Option Expr) (value : Expr)
  | argument (kind : ArgumentKind)
  | arguments (positional : Nat) (isUnpacked : Bool)
  deriving Repr

namespace Part

/-- The expressions among some parts. -/
def exprs (parts : List Part) : List Expr := parts.filterMap fun | .expr e => some e | _ => none

/-- The members of a dictionary among some parts. -/
def members (parts : List Part) : List (Option Expr × Expr) :=
  parts.filterMap fun | .pair key value => some (key, value) | _ => none

/-- The arguments among some parts, where an expression stands for a positional one. -/
def argumentKinds (parts : List Part) : List ArgumentKind :=
  parts.filterMap fun | .argument kind => some kind | .expr _ => some .positional | _ => none

/-- The arguments of a call as one part. -/
def ofArguments (parts : List Part) : Part :=
  let kinds := argumentKinds parts
  .arguments (kinds.count .positional) (kinds.contains .unpacked)

/-- The call of an expression with arguments. -/
def ofCall : List Part → Part
  | [.expr (.name "set")] => .expr .emptySet
  | _ => .expr (.other "function call")

/-- The sum of two expressions. -/
def ofSum : List Part → Part
  | [.expr left, .expr right] => .expr (.sum left right)
  | _ => .expr (.other "expression")

end Part

/-- What a production comes to when its items match. -/
inductive Verdict where
  | yields (parts : List Part)
  /-- The rule does not match after all. -/
  | refuses
  | finds (fault : Fault)
  deriving Repr

/-- One of the ways in which a rule matches. -/
structure Production where
  items : List Item
  /-- Once the other items match, no other production is tried, whether these match or not. -/
  sure : List Item := []
  /-- What the parts of the items come to; the number of brackets that are open after them is given. -/
  verdict : List Part → Nat → Verdict := fun parts _ => .yields parts
  /-- Whether the production only looks for faults. -/
  isSearch : Bool := false

namespace Production

/-- Yields what its items yield. -/
def plain (items : List Item) : Production := { items }

/-- Yields one part, made of what its items yield. -/
def made (items : List Item) (f : List Part → Part) : Production :=
  { items, verdict := fun parts _ => .yields [f parts] }

/-- Yields an expression of a kind. -/
def kind (name : String) (items : List Item) : Production := made items fun _ => .expr (.other name)

/-- Finds a fault whenever its items match. -/
def fault (f : Fault) (items : List Item) : Production := { items, verdict := fun _ _ => .finds f }

/-- Looks for a fault by another rule. -/
def search (r : Rule) : Production := { items := [.rule r], isSearch := true }

end Production

end LintBridge.Console.Literal
