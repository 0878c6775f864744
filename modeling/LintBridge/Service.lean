-- SUMMARY: Lint runs and fix requests for documents.
import LintBridge.Cache.Lookup
import LintBridge.Fix
import LintBridge.Uri.Basic

/-!
# The lint service

A run lints a document and publishes its diagnostics; a fix request lints it and gives edits. Both read
the document, find library and configuration, and lint, in this order. An error is reported. A run that
fails publishes no diagnostics, so that none of an earlier run remain, except when the URI is not that
of a file. A failure of the library is reported and then makes the request fail.
-/

namespace LintBridge

/-- A service with its source of documents and the place where it reports errors. -/
structure Service where
  settings : Settings
  /-- The open document of a URI. -/
  documents : String → Attempt LintError (Option Document)
  report : Text.Codes → Routine Unit

/-- What a run comes to, unless it fails. -/
inductive RunOutcome where
  /-- The diagnostics have been published. -/
  | complete (diagnostics : List Diagnostic)
  /-- An error has been reported, and no diagnostics are left. -/
  | cleared
  /-- An error has been reported, and nothing published. -/
  | refused
  deriving DecidableEq, Repr

/-- The diagnostics that a run has published, if it has published at all. -/
def RunOutcome.published? : RunOutcome → Option (List Diagnostic)
  | .complete diagnostics => some diagnostics
  | .cleared => some []
  | .refused => none

/-- What a fix request comes to, unless it fails. -/
inductive FixOutcome where
  | complete (result : FixResult)
  /-- An error has been reported, and there are no edits for the document. -/
  | withoutEdits (result : FixResult)
  /-- An error has been reported, and there is no document. -/
  | refused
  deriving DecidableEq, Repr

/-- The edits that a fix request gives. -/
def FixOutcome.result? : FixOutcome → Option FixResult
  | .complete result => some result
  | .withoutEdits result => some result
  | .refused => none

namespace Service

/-! ## Linting -/

/-- The file that a URI names. -/
def fileOf (uri : String) : Attempt LintError Path := Attempt.ofExcept ((Uri.toPath uri).mapError .uri)

/-- The open document of a URI. -/
def document (s : Service) (uri : String) : Attempt LintError Document := do
  match ← s.documents uri with
  | some document => return document
  | none => throw (.notOpen uri)

/-- The file of a URI and the document that is open under it. -/
def target (s : Service) (uri : String) : Attempt LintError (Path × Document) := do
  let file ← fileOf uri
  let document ← s.document uri
  return (file, document)

/-- Lint a document as the contents of a file, with a library and a configuration that have been found. -/
def lintWith (s : Service) (file : Path) (document : Document) (handle : Library.Handle)
    (configuration : Configuration) : Attempt LintError (List Failure) := do
  let failures ← Bridge.lint s.settings handle { file, text := document.text, configuration := configuration.path }
  (Routine.logged .debug "runner"
    s!"{file.text}: {failures.length} failure(s) with {configuration.path.text}").attempt
  return failures

/-- Lint a document as the contents of a file. Runs and fix requests go through the same calls in the same order and
differ in what they make of the result and of an error, so the calls are written once for both. -/
def failuresOf (s : Service) (file : Path) (document : Document) : Attempt LintError (List Failure) := do
  let adapter ← libraryFor s.settings file
  let loaded ← configurationFor s.settings file adapter
  s.lintWith file document adapter.handle loaded.configuration

/-- Lint the document of a URI. -/
def lintDocument (s : Service) (uri : String) : Attempt LintError (Document × List Failure) := do
  let (file, document) ← s.target uri
  let failures ← s.failuresOf file document
  return (document, failures)

/-! ## Runs -/

/-- Report that a run has failed. -/
def reportRun (s : Service) (e : LintError) : Routine Unit :=
  s.report (s!"Failed to run {s.settings.packageName}. " ++ e.message)

/-- Lint the document of a URI and publish its diagnostics. -/
def runLint (s : Service) (uri : String) : Attempt LintError RunOutcome := do
  match ← (s.lintDocument uri).run.attempt with
  | .ok (_, failures) =>
    let diagnostics ← Attempt.ofExcept
      ((Diagnostic.ofFailures s.settings.source failures).mapError .position)
    Attempt.step (.publish uri diagnostics)
    return .complete diagnostics
  | .error e =>
    match e.treatment with
    | .foreign =>
      (s.reportRun e).attempt
      return .refused
    | .fatal =>
      (s.reportRun e).attempt
      Attempt.step (.publish uri [])
      throw e
    | .unresolved =>
      (s.reportRun e).attempt
      Attempt.step (.publish uri [])
      return .cleared
    | .passed => throw e

/-! ## Fix requests -/

/-- Report that a fix request has failed. -/
def reportFix (s : Service) (e : LintError) : Routine Unit :=
  s.report (s!"Failed to fix {s.settings.packageName} errors. " ++ e.message)

/-- The edits that fix a document, restricted to a rule if one is given. -/
def fixDocument (s : Service) (file : Path) (document : Document) (rule : Option Text.Codes) :
    Attempt LintError FixOutcome := do
  match ← (s.failuresOf file document).run.attempt with
  | .ok failures =>
    let result ← Attempt.ofExcept ((FixResult.ofFailures (.ofString document.text) document.version rule
      failures).mapError .position)
    return .complete result
  | .error e =>
    match e.treatment with
    | .fatal =>
      (s.reportFix e).attempt
      throw e
    | .foreign | .unresolved =>
      (s.reportFix e).attempt
      return .withoutEdits { version := document.version, edits := [], rule }
    | .passed => throw e

/-- The edits that fix the document of a URI, restricted to a rule if one is given. -/
def fixLint (s : Service) (uri : String) (rule : Option Text.Codes) : Attempt LintError FixOutcome := do
  match ← (s.target uri).run.attempt with
  | .ok (file, document) => s.fixDocument file document rule
  | .error e =>
    match e.treatment with
    | .foreign | .unresolved =>
      (s.reportFix e).attempt
      return .refused
    | _ => throw e

/-! ## Notifications -/

/-- Forget all configurations after configuration files have changed. -/
def configurationChanged (s : Service) (uris : List String) : Routine Unit := do
  Routine.step .dropConfigurations
  uris.forM fun uri =>
    Routine.logged .info "service" s!"Detect {s.settings.configFilename} file change {uri}"

/-- Clear the diagnostics of a document that has been closed. -/
def documentClosed (uri : String) : Routine Unit := Routine.step (.publish uri [])

/-- Forget everything at the end. -/
def shutdown : Routine Unit := Routine.step .clearCache

end Service

end LintBridge
