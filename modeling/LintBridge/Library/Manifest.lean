-- SUMMARY: Package manifests: how they are read and what they tell about a library.
import LintBridge.Json.Reader
import LintBridge.Library.Handle
import LintBridge.Routine.Basic
import LintBridge.Error

/-!
# Package manifests

A manifest that cannot be opened, or that is no JSON object, counts as empty; the first of these is
logged. An empty manifest has no version and makes the library one of the legacy generation. Version
and entry point count only if they are texts that are not empty. A manifest that goes beyond a limit of
the reader is an error, and so is a version with such a number.
-/

namespace LintBridge.Library

open Json

/-- The file name of a manifest. -/
def manifestName : String := "package.json"

/-- The entry point of a package that names none. -/
def defaultEntryPoint : String := "index.js"

/-! ## What a manifest tells -/

/-- The version that a manifest declares, without blanks around it. -/
def declaredVersion? (manifest : Members) : Option String :=
  match member? manifest "version" with
  | some (.text s) =>
    let trimmed := Text.trim Text.isBlank s.shown.toList
    if trimmed.isEmpty then none else some (String.ofList trimmed)
  | _ => none

/-- The entry point of a package, seen from its directory. -/
def entryName (manifest : Members) : String :=
  match member? manifest "main" with
  | some (.text s) => if s.isEmpty then defaultEntryPoint else s.shown
  | _ => defaultEntryPoint

/-- The handle of a package. A declared version that cannot be read still is a declared version. -/
def Handle.ofManifest (rule : Version.CaseRule) (directory : Path) (source : Source) (manifest : Members) :
    Except Decimal.TooManyDigits Handle := do
  let declared := declaredVersion? manifest
  let version ← Version.normalize rule (declared.getD "")
  let generation ← Generation.ofVersion rule (version.or declared)
  let entryPoint := directory.child (entryName manifest)
  return { path := directory, entryPoint, version, source, generation }

/-! ## Reading -/

/-- Why a manifest counts as empty, when that is logged. -/
inductive ManifestFault where
  | unopened (file : Path) (cause : FileError)
  | unreadable (place : FaultPlace)
  deriving DecidableEq, Repr

def ManifestFault.message : ManifestFault → String
  | .unopened file cause => cause.message file
  | .unreadable place => place.message

/-- What reading a manifest comes to: its members, or the fault that makes it count as empty. A value
that is no object counts as an empty one. `depth` is what the reader is left. -/
def manifestOfText (depth : Nat) (text : List Char) : Except LintError (Except ManifestFault Members) :=
  match Json.read depth (Text.unifyNewlines text) with
  | .ok (.object members) => .ok (.ok members)
  | .ok _ => .ok (.ok [])
  | .error (.malformed place) => .ok (.error (.unreadable place))
  | .error (.beyond limit) => .error (.beyondLimit limit)

/-- What reading the content of a file as a manifest comes to. -/
def manifestOf (depth : Nat) (file : Path) : Except FileError Bytes → Except LintError (Except ManifestFault Members)
  | .error .nulCharacter => .error .nulInPath
  | .error cause => .ok (.error (.unopened file cause))
  | .ok content =>
    match Text.Utf8.decode? content with
    | none => .error .notUtf8
    | some text => manifestOfText depth text

/-- The manifest in a package directory, empty if there is none that can be used. -/
def readManifest (depth : Nat) (directory : Path) : Attempt LintError Members := do
  let file := directory.child manifestName
  match ← Attempt.ofExcept (manifestOf depth file (← Attempt.step (.read file))) with
  | .ok members => return members
  | .error fault => do
    (Routine.logged .warning "library.resolver"
      s!"unreadable manifest in {directory.text}: {fault.message}").attempt
    return []

/-- Load the library in a package directory. -/
def load (package : String) (directory : Path) (source : Source) : Attempt LintError Handle := do
  let platform ← Attempt.step .platform
  let manifest ← readManifest platform.jsonDepth directory
  let handle ← Attempt.ofExcept <|
    (Handle.ofManifest platform.caseRule directory source manifest).mapError (.beyondLimit <| .digits ·)
  let version := handle.version.getD "None"
  (Routine.logged .debug "library.resolver"
    s!"Loaded {package} {version} from {directory.text} as {handle.generation.name} API").attempt
  return handle

end LintBridge.Library
