-- SUMMARY: Linting a text and loading a configuration through a bridge program.
import LintBridge.Bridge.Request
import LintBridge.Command.Run

/-!
# Use of the bridge

Every use starts one child process with one request. It gives the failures in the order in which the
library reports them, or the configuration as the library loads it.
-/

namespace LintBridge.Bridge

open Json Library

/-- Carry out one request and give its result. -/
def exchangeWith (settings : Settings) (handle : Handle) (action : Action) (details : Members)
    (cwd : Path) : Attempt LintError Value := do
  (Routine.logged .debug "library.adapter"
    s!"bridge {action.name} via {handle.path.text} ({handle.generation.name} API)").attempt
  let platform ← Attempt.step .platform
  let completed ←
    (Command.run (callOf settings handle action details cwd)).mapError (failureOf settings.packageName)
  Attempt.ofExcept (resultOf platform.jsonDepth settings.packageName completed)

/-- Lint a text. -/
def lint (settings : Settings) (handle : Handle) (job : LintJob) : Attempt LintError (List Failure) := do
  let result ← exchangeWith settings handle .lint (lintDetails job handle.generation) job.file.parent
  Attempt.ofExcept ((parseFailures result).mapError .ofPayload)

/-- Load the configuration in a file. -/
def loadConfiguration (settings : Settings) (handle : Handle) (file : Path) :
    Attempt LintError Configuration := do
  let result ← exchangeWith settings handle .loadConfiguration (loadDetails file) file.parent
  let data ← Attempt.ofExcept ((rulesOf result).mapError .bridge)
  return { path := file, directory := file.parent, data }

end LintBridge.Bridge
