-- SUMMARY: Requests to a bridge program, and what its responses mean.
import LintBridge.Bridge.Program
import LintBridge.Command.Basic
import LintBridge.Configuration.Basic
import LintBridge.Error
import LintBridge.Json.Printer
import LintBridge.Json.Reader
import LintBridge.Library.Handle

/-!
# Requests and responses

A request is one JSON object: the library, the action, and what the action needs. The configuration
stands beside the options for the modern generation and among them for the legacy one. A response is a
JSON object whose member `ok` counts as true if the action succeeded; then `result` is its result, else
`error` and `stack` say what was thrown.
-/

namespace LintBridge.Bridge

open Json Library

/-- What a bridge program can be asked to do. -/
inductive Action where
  | lint | loadConfiguration
  deriving DecidableEq, Repr

def Action.name : Action → String
  | .lint => "lint"
  | .loadConfiguration => "loadConfiguration"

/-- A text to be linted, as the contents of a file under a configuration. -/
structure LintJob where
  file : Path
  text : String
  configuration : Path
  /-- Whether the library may fix what it finds. -/
  fix : Bool := false
  deriving DecidableEq, Repr

/-! ## Requests -/

/-- The request for an action of a library. -/
def request (handle : Handle) (action : Action) (details : Members) : Value :=
  .object (("library", .text handle.path.text) :: ("action", .text action.name) :: details)

/-- The options of a lint request that do not depend on the generation. -/
def lintOptions (job : LintJob) : Members := [("formatter", .text "json"), ("fix", .bool job.fix)]

/-- What a request for a configuration says. -/
def loadDetails (configuration : Path) : Members := [("configuration", .text configuration.text)]

/-- The part of a lint request that depends on the generation. -/
def lintSetup (job : LintJob) : Generation → Members
  | .modern => ("options", .object (lintOptions job)) :: loadDetails job.configuration
  | .legacy => [("options", .object (lintOptions job ++ loadDetails job.configuration))]

/-- What a lint request says about its job. -/
def lintDetails (job : LintJob) (generation : Generation) : Members :=
  ("filePath", .text job.file.text) :: ("text", .text job.text) :: lintSetup job generation

/-- The child process that carries out a request, with its executable still to be found. -/
def callOf (settings : Settings) (handle : Handle) (action : Action) (details : Members) (cwd : Path) :
    Command.Call :=
  { argv := [settings.nodePath, "-e", program handle.generation]
    cwd := some cwd
    input := some (request handle action details).toJson
    timeout := settings.lintTimeout.map .fraction }

/-! ## Responses -/

/-- What a child that did not complete means. A time that is too long to be waited for is no failure of the library. -/
def failureOf (package : String) : Command.RunError → LintError
  | .failed cause => .bridge (.exited package cause.status cause.stderr)
  | .unwaitable reason => .unwaitable reason
  | e => .bridge (.notStarted e.message)

/-- What a response that is no success says. -/
def thrownBy (package : String) (response : Members) : BridgeError :=
  let error := member response "error"
  let stack := member response "stack"
  .thrown (if error.isTruthy then error.plain else (s!"{package} failed" : String))
    (if stack.isTruthy then some stack.plain else none)

/-- The result in the output of a child that has completed, with at most `depth` lists and objects within each other. -/
def resultOf (depth : Nat) (package : String) (completed : Command.Completed) : Except LintError Value :=
  match Json.read depth (completed.stdout.getD "").toList with
  | .error (.malformed _) => .error (.bridge (.notJson package completed.stderr))
  | .error (.beyond limit) => .error (.beyondLimit limit)
  | .ok (.object response) =>
    if (member response "ok").isTruthy then .ok (member response "result")
    else .error (.bridge (thrownBy package response))
  | .ok _ => .error (.bridge .notObject)

/-- The rule set that a result is; null stands for an empty one. -/
def rulesOf : Value → Except BridgeError Members
  | .null => .ok []
  | .object members => .ok members
  | v => .error (.badConfiguration v.kind)

end LintBridge.Bridge
