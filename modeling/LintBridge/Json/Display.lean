-- SUMMARY: The text of a JSON value in messages.
import LintBridge.Json.Printer

/-!
# Values in messages

Messages show a value in a form of their own: `None`, `True` and `False`, quoted texts, and lists and
objects with their parts shown the same way.
-/

namespace LintBridge.Json

mutual

/-- A value as a part of a message. -/
def describe : Value → List Char
  | .null => "None".toList
  | .bool true => "True".toList
  | .bool false => "False".toList
  | .int i => printInt i
  | .float x => x.display
  | .text s => Text.quoted s
  | .list [] => ['[', ']']
  | .list (item :: items) => '[' :: (describe item ++ describeItems items)
  | .object [] => ['{', '}']
  | .object ((key, value) :: members) =>
    '{' :: (Text.quoted key ++ ':' :: ' ' :: (describe value ++ describeMembers members))

/-- The items after the first, and the closing bracket. -/
def describeItems : List Value → List Char
  | [] => [']']
  | item :: items => ',' :: ' ' :: (describe item ++ describeItems items)

/-- The members after the first, and the closing brace. -/
def describeMembers : List (Text.Codes × Value) → List Char
  | [] => ['}']
  | (key, value) :: members =>
    ',' :: ' ' :: (Text.quoted key ++ ':' :: ' ' :: (describe value ++ describeMembers members))

end

/-- A value as a part of a message. -/
def Value.display (v : Value) : String := String.ofList (describe v)

/-- A value as a whole message: a text is itself. -/
def Value.plain : Value → Text.Codes
  | .text s => s
  | v => v.display

end LintBridge.Json
