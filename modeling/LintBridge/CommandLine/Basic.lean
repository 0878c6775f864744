-- SUMMARY: The commands that check files and fix a file.
import LintBridge.Console.Listing
import LintBridge.Console.Message
import LintBridge.Service
import LintBridge.Text.Quoted

/-!
# The command line

`check` lints files and lists their diagnostics; `fix` shows the edits that fix a file, or applies them.
Applying reads the file once more and goes on only if the file is the one that was linted, as far as its
modification time tells. Both end with status 0, with 1 when there are findings or outdated edits, and
with 2 after an error.
-/

namespace LintBridge.CommandLine

open Console

/-- How a command ends. -/
inductive Exit where
  | success
  /-- There are findings, or the edits are outdated. -/
  | findings
  | failure
  deriving DecidableEq, Repr

def Exit.status : Exit → Nat
  | .success => 0
  | .findings => 1
  | .failure => 2

/-! ## Documents on disk -/

/-- The file of a URI as a document, whose version is its modification time. A file that cannot be read
as UTF-8 is no document. -/
def readDocument (uri : String) : Attempt LintError (Option Document) := do
  let file ← Service.fileOf uri
  match ← Attempt.step (.read file) with
  | .error .nulCharacter => throw .nulInPath
  | .error _ => return none
  | .ok content =>
    match Text.Utf8.decode? content with
    | none => return none
    | some text =>
      match ← Attempt.step (.modified file) with
      | .error _ => return none
      | .ok time => return some { uri, text := String.ofList text, version := time }

/-- The service of a command. -/
def service (settings : Settings) : Service where
  settings
  documents := readDocument
  report := fun message => say .fail message.shown

/-- Make the log ready and load the settings; invalid settings are shown. -/
def prepare (verbose : Bool) : Routine (Option Settings) := do
  let _ ← Routine.step (.configureLog verbose)
  match Settings.load [] (← Routine.step .environment) with
  | .ok settings => return some settings
  | .error e =>
    say .fail e.message
    return none

/-- The URI of the file that a path leads to. -/
def uriOf (file : Path) : Attempt LintError String := do
  match ← Attempt.step (.resolve file) with
  | .ok found => return Uri.ofPath found
  | .error .nulCharacter => throw .nulInPath
  | .error (.loop found) => throw (.linkLoop found)

/-! ## Checking -/

/-- What checking one file comes to. -/
inductive Verdict where
  | checked (findings : Nat)
  | failed
  deriving DecidableEq, Repr

/-- Show what the failed library wrote about its failure. -/
def showStderr (cause : BridgeError) : Routine Unit :=
  match cause.stderr with
  | some stderr => if stderr.isEmpty then pure () else say .fail stderr.shown
  | none => pure ()

/-- List the diagnostics of a file, if there are any. -/
def showDiagnostics (file : Path) (ds : List Diagnostic) : Attempt LintError Unit := do
  if ds.isEmpty then return ()
  let lines ← Attempt.ofExcept ((listing file.text ds).mapError .markup)
  Attempt.step (.print .out (joinLines lines))

/-- Check one file and list its diagnostics. -/
def checkFile (settings : Settings) (file : Path) : Attempt LintError Verdict := do
  let uri ← uriOf file
  match ← ((service settings).runLint uri).run.attempt with
  | .ok (.complete diagnostics) =>
    showDiagnostics file diagnostics
    return .checked diagnostics.length
  | .ok _ => return .failed
  | .error (.bridge cause) =>
    (showStderr cause).attempt
    return .failed
  | .error e => throw e

/-- Check files one after the other. -/
def checkFiles (settings : Settings) : List Path → Attempt LintError (List Verdict)
  | [] => return []
  | file :: rest => do
    let verdict ← checkFile settings file
    let verdicts ← checkFiles settings rest
    return verdict :: verdicts

/-- The number of findings in a file. -/
def Verdict.findings : Verdict → Nat
  | .checked findings => findings
  | .failed => 0

/-- The number of findings in all files. -/
def findingsIn : List Verdict → Nat
  | [] => 0
  | verdict :: rest => verdict.findings + findingsIn rest

/-- Say how a check has ended. -/
def conclude (verdicts : List Verdict) : Routine Exit :=
  let findings := findingsIn verdicts
  if verdicts.contains .failed then return .failure
  else if findings = 0 then do
    say .ok "No problems found."
    return .success
  else do
    say .warn s!"{findings} problem(s) found."
    return .findings

/-- Check files and list their diagnostics. -/
def check (files : List Path) (verbose : Bool) : Attempt LintError Exit := do
  match ← (prepare verbose).attempt with
  | none => return .failure
  | some settings =>
    let verdicts ← checkFiles settings files
    (conclude verdicts).attempt

/-! ## Fixing -/

/-- The line that shows an edit; its places are counted from one. -/
def editLine (file : Path) (e : Text.TextEdit) : String :=
  let start := e.range.start
  let stop := e.range.stop
  s!"{file.text}:{start.line + 1}:{start.character + 1}-{stop.line + 1}:{stop.character + 1} -> " ++
    Text.quotedString e.newText

/-- Show edits, one on a line. -/
def showEdits (file : Path) (edits : List Text.TextEdit) : Routine Unit :=
  edits.forM fun e => say .info (editLine file e)

/-- Apply edits to a file, unless it is no longer the one that they were computed for. -/
def applyEdits (file : Path) (uri : String) (result : FixResult) : Attempt LintError Exit := do
  let current := (← readDocument uri).filter fun document => result.isCurrent document.version
  match current with
  | none =>
    (say .warn s!"Fixes for {file.text} are outdated and can't be applied.").attempt
    return .findings
  | some document =>
    match (Text.Snapshot.ofString document.text).apply result.edits with
    | .error e =>
      (say .fail s!"Failed to apply fixes to {file.text}: {e.message}").attempt
      return .failure
    | .ok fixed =>
      let content ← Attempt.ofExcept (fixed.encode.mapError .unencodable)
      match ← Attempt.step (.write file content) with
      | .error cause => throw (.unwritable file cause)
      | .ok () =>
        (say .ok s!"Applied {result.edits.length} edit(s) to {file.text}.").attempt
        return .success

/-- Show the edits that fix a file, or apply them. -/
def fix (file : Path) (apply : Bool) (rule : Option Text.Codes) (verbose : Bool) : Attempt LintError Exit := do
  match ← (prepare verbose).attempt with
  | none => return .failure
  | some settings =>
    let uri ← uriOf file
    match ← ((service settings).fixLint uri rule).run.attempt with
    | .error (.bridge _) => return .failure
    | .error e => throw e
    | .ok (.complete result) =>
      if result.edits.isEmpty then
        (say .ok "No fixes available.").attempt
        return .success
      else if apply then applyEdits file uri result
      else
        (showEdits file result.edits).attempt
        return .success
    | .ok _ => return .failure

end LintBridge.CommandLine
