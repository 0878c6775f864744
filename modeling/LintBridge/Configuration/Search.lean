-- SUMMARY: The search for the configuration file that governs a document.
import LintBridge.Bridge.Run

/-!
# The search for the configuration

The nearest configuration file at or above the directory of a document governs it. The search looks
into a limited number of directories. A path that the system does not look up ends it with an error.
-/

namespace LintBridge.Configuration

open Library

/-- The first of some directories that has the configuration file. -/
def searchDirectories (filename : String) : List Path → Attempt LintError (Option Path)
  | [] => return none
  | directory :: rest => do
    let candidate := directory.child filename
    if ← Attempt.isFile (.unsearchable candidate) candidate then return some candidate
    else searchDirectories filename rest

/-- The configuration file that governs a document. -/
def find (settings : Settings) (file : Path) : Attempt LintError (Option Path) := do
  let directories := file.parent.ancestors (some settings.maxAscent)
  match ← searchDirectories settings.configFilename directories with
  | some found =>
    (Routine.logged .debug "configuration" s!"using {found.text} for {file.text}").attempt
    return some found
  | none => return none

/-- Find the configuration file that governs a document, and load it with the library. -/
def resolve (settings : Settings) (handle : Handle) (file : Path) : Attempt LintError Configuration := do
  match ← find settings file with
  | some found => Bridge.loadConfiguration settings handle found
  | none => throw (.noConfiguration settings.configFilename file)

end LintBridge.Configuration
