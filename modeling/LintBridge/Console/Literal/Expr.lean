-- SUMMARY: Expressions, and which of them are literals.
import LintBridge.Console.Literal.Fault

/-!
# Expressions

An expression is kept as far as it matters whether it is a literal, and what it is called in messages. A
literal is a number, a sum of a number and an imaginary one, a quoted text, one of a few words, or a tuple,
set or dictionary of literals. What is a member of a set or a key must not itself hold a set or a dictionary.
-/

namespace LintBridge.Console.Literal

/-- An expression, as far as it matters. -/
inductive Expr where
  | number (imaginary huge : Bool)
  /-- A quoted text, an ellipsis, or one of the words for true, false and nothing. -/
  | constant (kind : String)
  | tuple (items : List Expr)
  | set (items : List Expr)
  /-- The call that makes an empty set. -/
  | emptySet
  /-- A dictionary; a missing key stands for members that are taken from elsewhere. -/
  | dict (members : List (Option Expr × Expr))
  | signed (e : Expr)
  | sum (left right : Expr)
  | name (s : String)
  | attribute
  /-- Items that are taken from elsewhere. -/
  | starred (e : Expr)
  /-- A comparison, which may begin with a test for membership. -/
  | comparison (isMembership : Bool) (left : Expr)
  | other (kind : String)
  deriving Repr

/-- The words for values of their own. -/
def constants : List String := ["True", "False", "None"]

namespace Expr

/-- What an expression is called in messages. -/
def kind : Expr → String
  | .number .. => "literal"
  | .constant kind => kind
  | .tuple _ => "tuple"
  | .set _ => "set display"
  | .emptySet => "function call"
  | .dict _ => "dict literal"
  | .signed _ | .sum .. => "expression"
  | .name _ => "name"
  | .attribute => "attribute"
  | .starred _ => "starred"
  | .comparison .. => "comparison"
  | .other kind => kind

mutual

/-- The kind of the first part of an expression that cannot be assigned to. Of a test for membership only
the left side counts, since the same word follows what is assigned to. -/
def badTarget? : Expr → Option String
  | .name _ | .attribute => none
  | .starred e => badTarget? e
  | .tuple items => badTargetItem? items
  | .comparison isMembership left => if isMembership then badTarget? left else none
  | e => some e.kind

def badTargetItem? : List Expr → Option String
  | [] => none
  | e :: items => (badTarget? e).or (badTargetItem? items)

end

/-! ## Literals -/

mutual

/-- The kind of the first part of a literal that keeps it from being a key. -/
def unhashable? : Expr → Option String
  | .set _ | .emptySet => some "set"
  | .dict _ => some "dict"
  | .tuple items => unhashableItem? items
  | _ => none

def unhashableItem? : List Expr → Option String
  | [] => none
  | e :: items => (unhashable? e).or (unhashableItem? items)

end

/-- Refuses what cannot be a key. -/
def checkKey (e : Expr) : Except Fault Unit :=
  match e.unhashable? with
  | some kind => .error (.unhashable kind)
  | none => .ok ()

mutual

/-- Refuses an expression that is no literal. -/
def check : Expr → Except Fault Unit
  | .number .. | .constant _ | .signed (.number ..) | .emptySet => .ok ()
  | .sum (.number false huge) (.number true _) | .sum (.signed (.number false huge)) (.number true _) =>
    if huge then .error .tooLarge else .ok ()
  | .tuple items => checkItems items
  | .set items => checkMembers items
  | .dict members => checkPairs members
  | _ => .error .malformed

def checkItems : List Expr → Except Fault Unit
  | [] => .ok ()
  | e :: items => do check e; checkItems items

def checkMembers : List Expr → Except Fault Unit
  | [] => .ok ()
  | e :: items => do check e; checkKey e; checkMembers items

def checkPairs : List (Option Expr × Expr) → Except Fault Unit
  | [] => .ok ()
  | (none, _) :: _ => .error .unpacked
  | (some key, value) :: members => do check key; check value; checkKey key; checkPairs members

end

end Expr

end LintBridge.Console.Literal
