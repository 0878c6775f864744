-- SUMMARY: JSON values, the members of an object in order, kinds of values, and truth of a value.
import LintBridge.Number.Binary64
import LintBridge.Table
import LintBridge.Text.Codes

/-!
# JSON values

Integers are exact and kept apart from numbers written with a point or an exponent. In a text a surrogate may
stand without its partner. The members of an object keep their order; when a key is written twice, the first
place and the last value count.
-/

namespace LintBridge.Json

/-- A JSON value. -/
inductive Value where
  | null
  | bool (b : Bool)
  | int (i : Int)
  | float (x : Binary64)
  | text (s : Text.Codes)
  | list (items : List Value)
  | object (members : List (Text.Codes × Value))
  deriving Repr

/-! ## Equality -/

mutual

/-- Whether two values are the same. -/
def Value.same : Value → Value → Bool
  | .null, .null => true
  | .bool b, .bool b' => b == b'
  | .int i, .int i' => i == i'
  | .float x, .float x' => x == x'
  | .text s, .text s' => s == s'
  | .list items, .list items' => sameItems items items'
  | .object members, .object members' => sameMembers members members'
  | _, _ => false

def sameItems : List Value → List Value → Bool
  | [], [] => true
  | v :: rest, v' :: rest' => v.same v' && sameItems rest rest'
  | _, _ => false

def sameMembers : List (Text.Codes × Value) → List (Text.Codes × Value) → Bool
  | [], [] => true
  | (key, v) :: rest, (key', v') :: rest' => key == key' && v.same v' && sameMembers rest rest'
  | _, _ => false

end

mutual

theorem Value.same_iff (v v' : Value) : v.same v' ↔ v = v' := by
  cases v <;> cases v' <;> simp [Value.same, sameItems_iff, sameMembers_iff]

theorem sameItems_iff (items items' : List Value) : sameItems items items' ↔ items = items' := by
  cases items <;> cases items' <;> simp [sameItems, Value.same_iff, sameItems_iff]

theorem sameMembers_iff (members members' : List (Text.Codes × Value)) :
    sameMembers members members' ↔ members = members' := by
  cases members <;> cases members' <;> simp [sameMembers, Value.same_iff, sameMembers_iff, Prod.ext_iff]

end

/-- Values are nested in lists, so equality on them is not derived. -/
instance : DecidableEq Value := fun v v' => decidable_of_iff (v.same v') (v.same_iff v')

/-! ## Members -/

/-- The members of an object, in order. -/
abbrev Members := List (Text.Codes × Value)

/-- The members that a sequence of pairs writes. -/
def membersOf (pairs : List (Text.Codes × Value)) : Members := Table.ofPairs pairs

/-- The value of a key. -/
def member? (ms : Members) (key : Text.Codes) : Option Value := Table.find? ms key

/-- The value of a key, null when the key is missing. -/
def member (ms : Members) (key : Text.Codes) : Value := (member? ms key).getD .null

/-- The value of the first key, or of the second when the first is missing. -/
def memberOr (ms : Members) (key other : Text.Codes) : Value := (member? ms key).getD (member ms other)

/-! ## Kinds -/

/-- What sort of value a value is. -/
inductive Kind where
  | null | bool | int | float | text | list | object
  deriving DecidableEq, Repr

/-- The word that messages use for a kind. -/
def Kind.name : Kind → String
  | .null => "NoneType"
  | .bool => "bool"
  | .int => "int"
  | .float => "float"
  | .text => "str"
  | .list => "list"
  | .object => "dict"

namespace Value

def kind : Value → Kind
  | .null => .null
  | .bool _ => .bool
  | .int _ => .int
  | .float _ => .float
  | .text _ => .text
  | .list _ => .list
  | .object _ => .object

/-- A value counts as false when it is null, false, zero or empty. -/
def isTruthy : Value → Bool
  | .null => false
  | .bool b => b
  | .int i => i != 0
  | .float x => !x.isZero
  | .text s => !s.isEmpty
  | .list items => !items.isEmpty
  | .object members => !members.isEmpty

end Value

end LintBridge.Json
