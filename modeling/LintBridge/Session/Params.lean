-- SUMMARY: What a client request asks for.
import LintBridge.Json.Value

/-!
# Request parameters

A request names a document and maybe a rule. Both spellings of a name are read, and the first that is
there counts. Parameters of the wrong kind name nothing, and so does an empty rule.
-/

namespace LintBridge.Session

open Json

/-- A member of a value under one of two names; a value that is no object has no members. -/
def memberOf (v : Value) (key other : Text.Codes) : Value :=
  match v with
  | .object members => memberOr members key other
  | _ => .null

/-- The URI of the document that a request names. -/
def requestUri? (params : Value) : Option String :=
  match memberOf (memberOf params "textDocument" "text_document") "uri" "uri" with
  | .text uri => some uri.shown
  | _ => none

/-- The rule that a request names. -/
def requestRule? (params : Value) : Option Text.Codes :=
  match memberOf params "ruleId" "rule_id" with
  | .text rule => if rule.isEmpty then none else some rule
  | _ => none

end LintBridge.Session
