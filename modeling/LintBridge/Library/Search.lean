-- SUMMARY: The search for the library: in the project, then in the global directories of npm and yarn.
import LintBridge.Command.Run
import LintBridge.Library.Manifest

/-!
# The search for the library

The directories above a file are searched first, nearest first, then the global directory of npm, then
that of yarn. The first copy found is taken. The global directories are asked of the package managers
when they are first needed, and remembered, also when there is none. A path that the system does not
look up ends the search with an error.
-/

namespace LintBridge.Library

/-- The directory that holds packages. -/
def modulesName : String := "node_modules"

/-- Settings that keep the package managers quiet. -/
def quietDefaults : Environment :=
  [("npm_config_fund", "false"), ("npm_config_audit", "false"), ("npm_config_progress", "false"),
    ("npm_config_update_notifier", "false")]

/-- An environment with the quiet settings where it has none of its own. -/
def withQuietDefaults (env : Environment) : Environment :=
  quietDefaults.foldl
    (fun env (name, value) => if (Table.find? env name).isSome then env else Table.put name value env)
    env

/-! ## The directories of a project -/

/-- The directory of a package among modules, if it has a manifest. -/
def packageIn (package : String) (modules : Path) : Attempt LintError (Option Path) := do
  let candidate := modules.child package
  let manifest := candidate.child manifestName
  if ← Attempt.isFile (.unsearchable manifest) manifest then return some (← Attempt.step (.realPath candidate))
  else return none

/-- The nearest copy of a package in the given directories. -/
def searchDirectories (package : String) : List Path → Attempt LintError (Option Path)
  | [] => return none
  | directory :: rest =>
    if directory.name = modulesName then searchDirectories package rest
    else do
      match ← packageIn package (directory.child modulesName) with
      | some found => return some found
      | none => searchDirectories package rest

/-! ## Global directories -/

/-- The last line of an output that is not blank, without blanks around it. -/
def lastLine? (output : String) : Option String :=
  let lines := (Text.outputLines output.toList).map (Text.trim Text.isBlank)
  ((lines.filter (!·.isEmpty)).getLast?).map String.ofList

/-- The answer of a package manager, if it gives one. -/
def ask (manager : String) (args : List String) : Attempt LintError (Option String) := do
  let env ← Attempt.step .environment
  match ← (Command.run { argv := manager :: args, env := some (withQuietDefaults env) }).run.attempt with
  | .ok completed => return lastLine? (completed.stdout.getD "")
  | .error (.unwaitable reason) => throw (.unwaitable reason)
  | .error e => do
    (Routine.logged .debug "library.resolver" s!"{manager} unavailable: {e.message}").attempt
    return none

/-- The global directory of npm: the one it names, or else the one below its installation. -/
def askNpm : Attempt LintError (Option Path) := do
  match ← ask "npm" ["root", "-g"] with
  | some root => return some (.ofString root)
  | none =>
    match ← ask "npm" ["config", "get", "prefix"] with
    | some base => return some (((Path.ofString base).child "lib").child modulesName)
    | none => return none

/-- The global directory of yarn. -/
def askYarn : Attempt LintError (Option Path) := do
  match ← ask "yarn" ["global", "dir"] with
  | some base => return some ((Path.ofString base).child modulesName)
  | none => return none

/-- The global directory of a source, asked for once. -/
def globalRoot (source : Source) (question : Attempt LintError (Option Path)) :
    Attempt LintError (Option Path) := do
  match ← Attempt.step (.rootOf source) with
  | some known => return known
  | none => do
    let root ← question
    Attempt.step (.keepRoot source root)
    return root

/-- The copy of a package in the global directory of a source. -/
def searchGlobal (package : String) (source : Source) (question : Attempt LintError (Option Path)) :
    Attempt LintError (Option Path) := do
  match ← globalRoot source question with
  | some root => packageIn package root
  | none => return none

/-! ## The search -/

/-- Search one source for the package, seen from a directory. -/
def searchSource (settings : Settings) (directory : Path) : Source → Attempt LintError (Option Path)
  | .project => searchDirectories settings.packageName (directory.ancestors (some settings.maxAscent))
  | .npm => searchGlobal settings.packageName .npm askNpm
  | .yarn => searchGlobal settings.packageName .yarn askYarn

/-- Search sources in order. -/
def searchSources (settings : Settings) (directory : Path) :
    List Source → Attempt LintError (Option (Path × Source))
  | [] => return none
  | source :: rest => do
    match ← searchSource settings directory source with
    | some found =>
      (Routine.logged .info "library.resolver" s!"Found {settings.packageName} path: {found.text}").attempt
      return some (found, source)
    | none =>
      (Routine.logged .debug "library.resolver"
        s!"{settings.packageName} not found via {source.name} resolution from {directory.text}").attempt
      searchSources settings directory rest

/-- The directory of the package that serves a file, and where it was found. -/
def locate (settings : Settings) (file : Path) : Attempt LintError (Path × Source) := do
  match ← searchSources settings file.parent [.project, .npm, .yarn] with
  | some found => return found
  | none => throw (.noLibrary settings.packageName file)

/-- Locate the library that serves a file, and load it. -/
def resolve (settings : Settings) (file : Path) : Attempt LintError Handle := do
  let (directory, source) ← locate settings file
  load settings.packageName directory source

end LintBridge.Library
