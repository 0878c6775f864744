-- SUMMARY: Running a command to its end.
import LintBridge.Routine.Basic

/-!
# Running commands

The executable of a command is found first: a path from the root is used as it is, any other name is
looked up. The command is then started and its end concluded. No child is started when there is no
command or when its executable is not found.
-/

namespace LintBridge.Command

/-- The executable that the first word of a command stands for. -/
def findExecutable (word : String) : Attempt RunError String :=
  if (Path.ofString word).isAbsolute then pure word
  else do
    match ← Attempt.step (.executable word) with
    | some found => return found
    | none => throw (.notOnPath word)

/-- Start a child process and wait for its end. -/
def start (call : Call) : Attempt RunError Completed := do
  let platform ← Attempt.step .platform
  let outcome ← Attempt.step (.start call)
  Attempt.ofExcept (conclude platform.longestWait call outcome)

/-- Run the command of a call, whose first word is still to be found. -/
def run (call : Call) : Attempt RunError Completed :=
  match call.argv with
  | [] => throw .noCommand
  | word :: args => do
    let executable ← findExecutable word
    start { call with argv := executable :: args }

end LintBridge.Command
