-- SUMMARY: The field name that an option key stands for.
import LintBridge.Text.Codes
import LintBridge.Text.LowerCase

/-!
# Option keys

Editors write option keys in camel case, the fields of the settings are named in snake case. An
underscore goes before each capital letter that does not begin the key, and the whole becomes lower
case.
-/

namespace LintBridge.Settings

/-- The text with an underscore before each of its capital ASCII letters. -/
def breakWords : List Char → List Char
  | [] => []
  | c :: rest => if 'A' ≤ c ∧ c ≤ 'Z' then '_' :: c :: breakWords rest else c :: breakWords rest

/-- The field name of a key. -/
def snakeCase : List Char → List Char
  | [] => []
  | c :: rest => Text.lower (c :: breakWords rest)

/-- The field name of a key, as a string. A key with a surrogate that has no partner is the name of no field. -/
def fieldName (key : Text.Codes) : String := String.ofList (snakeCase key.shown.toList)

end LintBridge.Settings
