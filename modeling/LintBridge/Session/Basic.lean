-- SUMMARY: The requests and notifications of a client.
import LintBridge.Routine.Run
import LintBridge.Service
import LintBridge.Session.Params

/-!
# Sessions

A client keeps a table of open documents, asks for runs and fixes, and says what has changed. When it
configures the session with valid settings a new service begins; with invalid ones it is told what is
wrong, and the service goes on. Documents are kept under the decoded form of their URI and looked up
under the URI as it is given.
-/

namespace LintBridge.Session

open Json

/-! ## The service of a session -/

/-- Log an error that the client is told, and tell it. -/
def reportError (message : Text.Codes) : Routine Unit := do
  Routine.step
    (.log { level := .error, logger := Log.loggerOf "server", message, told := true })
  Routine.step (.tell .error message)

/-- The service of a session, over the documents that the client has opened. -/
def service (settings : Settings) : Service where
  settings
  documents uri := Attempt.step (.document uri)
  report := reportError

/-- The options that a client gives; a value that is no object gives none. -/
def optionsOf : Value → Members
  | .object members => members
  | _ => []

/-- Begin a new service with the settings that options and environment make, and give the settings that
are in force afterwards. -/
def configure (settings : Settings) (options : Value) : Routine Settings := do
  match Settings.load (optionsOf options) (← Routine.step .environment) with
  | .ok settings =>
    Routine.step (.restart settings)
    return settings
  | .error e =>
    reportError e.message
    return settings

/-! ## Requests -/

/-- Lint a document for the client. -/
def run (settings : Settings) (params : Value) : Attempt LintError Unit :=
  match requestUri? params with
  | some uri => do
    let _ ← (service settings).runLint uri
  | none =>
    (reportError (s!"Failed to run {settings.packageName}. Missing document URI." : String)).attempt

/-- Give the client the edits that fix a document. -/
def fix (settings : Settings) (params : Value) : Attempt LintError (Option FixResult) :=
  match requestUri? params with
  | some uri => do
    let outcome ← (service settings).fixLint uri (requestRule? params)
    return outcome.result?
  | none => do
    (reportError (s!"Failed to fix {settings.packageName} errors. Missing document URI." : String)).attempt
    return none

/-! ## Documents -/

/-- The key of a document in the table. -/
def documentKey (uri : String) : String := String.ofList (Uri.percentDecode uri.toList)

/-- The state after the client has opened a document, or changed it. The URI must be one that can be
taken apart as it is given. -/
def openDocument (s : State) (uri text : String) (version : Int) : Except UriError State := do
  let _ ← Uri.ofString uri
  return { s with documents := putDocument s.documents { uri := documentKey uri, text, version } }

/-- The state after the client has closed a document, before its diagnostics are cleared. -/
def dropDocument (s : State) (uri : String) : State :=
  { s with documents := closeDocument s.documents (documentKey uri) }

end LintBridge.Session
