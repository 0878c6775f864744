-- SUMMARY: The command-line program: steps of routines carried out on the machine.
import LintBridge.CommandLine.Arguments
import LintBridge.CommandLine.Basic
import LintBridge.Routine.Run

/-!
# The program

Steps that concern files, the environment and the output are carried out on the machine; steps that
concern the memory of the service are answered by the state. Child processes are refused, so a library
can be located but not run.
-/

namespace LintBridge.Main

open CommandLine

/-- The error of a file operation. -/
def fileError : IO.Error → FileError
  | .noFileOrDirectory .. => .missing
  | .permissionDenied .. => .denied
  | _ => .isDirectory

/-- What is known about the file that a path leads to. -/
def metadata (p : Path) : IO IO.FS.Metadata := do
  (← IO.FS.realPath p.text).metadata

/-- The variables that the settings and the search for the library depend on. -/
def environment : IO Environment := do
  let names := Settings.overrides.map (·.1) ++ ["PATH", "HOME"] ++ Library.quietDefaults.map (·.1)
  names.filterMapM fun name => do
    return (← IO.getEnv name).map fun value => (name, value)

/-- Whether a path leads to a regular file, unless the system does not look it up. -/
def isFile (p : Path) : IO (Except FileError Bool) := do
  match ← (metadata p).toBaseIO with
  | .ok data => return .ok (data.type == .file)
  | .error (.permissionDenied ..) => return .error .denied
  | .error _ => return .ok false

/-- Look an executable up on the search path. -/
def findExecutable (name : String) : IO (Option String) := do
  let directories := Text.pieces ':' ((← IO.getEnv "PATH").getD "").toList
  let found ← directories.findM? fun directory => do
    return (← isFile ((Path.ofChars directory).child name)).toOption.getD false
  return found.map fun directory => ((Path.ofChars directory).child name).text

/-- The result of a file operation. -/
def guarded {α : Type} (act : IO α) : IO (Except FileError α) := do
  match ← act.toBaseIO with
  | .ok a => return .ok a
  | .error e => return .error (fileError e)

/-- Show what has been printed by a step. -/
def flush (events : List Event) : IO Unit :=
  events.forM fun
    | .printed .out text => IO.print text
    | .printed .err text => IO.eprint text
    | _ => pure ()

/-- Carry out one step. -/
def answer : (q : Query) → StateT State IO q.Answer
  | .platform => return {}
  | .environment => environment
  | .executable name => findExecutable name
  | .isFile p => isFile p
  | .realPath p => do
    match ← (IO.FS.realPath p.text).toBaseIO with
    | .ok found => return Path.ofString found.toString
    | .error _ => return p
  | .resolve p => do
    if FileTree.hasNul p then return .error .nulCharacter
    match ← (IO.FS.realPath p.text).toBaseIO with
    | .ok found => return .ok (Path.ofString found.toString)
    | .error _ => return .ok p
  | .read p => guarded (do return (← IO.FS.readBinFile p.text).toList)
  | .modified p => guarded do
      let time := (← metadata p).modified
      return (time.sec * 1000000000 + time.nsec.toNat).toNat
  | .write p content =>
    return (← guarded (IO.FS.writeBinFile p.text ⟨content.toArray⟩)).mapError fun cause => { cause }
  | .start _ => return .refused "child processes are not available"
  | q => do
    let (answer, s) := q.answer { (← get) with trace := [] }
    set s
    flush s.trace
    return answer

/-- Carry out a routine step by step. -/
def perform {α : Type} : Routine α → StateT State IO α
  | .done a => pure a
  | .ask q next => do perform (next (← answer q))

/-- The state at the beginning; the machine itself stands for the host. -/
def start : State :=
  { host :=
      { files := ⟨[], []⟩
        environment := []
        executables := []
        replies := fun _ => { outcome := .refused "child processes are not available" } } }

/-- The routine of a command. -/
def routineOf : Command → Attempt LintError Exit
  | .check files verbose => check (files.map Path.ofString) verbose
  | .fix file apply rule verbose => fix (Path.ofString file) apply rule verbose

end LintBridge.Main

open LintBridge LintBridge.CommandLine in
/-- Run the command that the words write. -/
def main (words : List String) : IO UInt32 := do
  match Command.ofWords? words with
  | none =>
    IO.eprintln usage
    return 2
  | some command =>
    let (result, _) ← (LintBridge.Main.perform (LintBridge.Main.routineOf command).run).run
      LintBridge.Main.start
    match result with
    | .ok exit => return exit.status.toUInt32
    | .error e =>
      IO.eprintln e.message.shown
      return 1
