-- SUMMARY: Child processes: what is started, how it ends, and what counts as a failure.
import LintBridge.FileTree
import LintBridge.Number.Binary64
import LintBridge.Settings.Basic
import LintBridge.Text.Blank
import LintBridge.Text.Utf8

/-!
# Commands

A command is started with its executable found, its output captured, and its standard input either
given or closed. A child that exits with a status other than zero has failed; one that is still running
when its time is up counts as failed with status 124. The output of a child that exits must be UTF-8, and
no child can be waited for longer than the system counts milliseconds.
-/

namespace LintBridge.Command

/-- A number of seconds, whole or with a fraction. -/
inductive Seconds where
  | whole (n : Int)
  | fraction (x : Binary64)
  deriving DecidableEq, Repr

def Seconds.text : Seconds → String
  | .whole n => toString n
  | .fraction x => String.ofList x.display

/-- Whether a time is longer than a number of milliseconds. -/
def Seconds.isBeyond (milliseconds : Nat) : Seconds → Bool
  | .whole n => (milliseconds : Int) < n * 1000
  | .fraction (.finite false m e) =>
    if 0 ≤ e then milliseconds < m * Nat.pow 2 e.toNat * 1000
    else milliseconds * Nat.pow 2 (-e).toNat < m * 1000
  | .fraction (.infinite false) => true
  | .fraction _ => false

/-- A child process to be started. -/
structure Call where
  argv : List String
  /-- The working directory; our own when not given. -/
  cwd : Option Path := none
  /-- The whole environment; our own when not given. -/
  env : Option Environment := none
  /-- What is written to its standard input, which is closed when nothing is. -/
  input : Option String := none
  timeout : Option Seconds := none
  deriving DecidableEq, Repr

/-- Output that was captured, decoded or not. -/
inductive Captured where
  | text (s : String)
  | bytes (b : Bytes)
  deriving DecidableEq, Repr

instance : Coe String Captured := ⟨.text⟩

/-- The text of captured output; malformed bytes read as U+FFFD. -/
def Captured.toText : Option Captured → String
  | none => ""
  | some (.text s) => s
  | some (.bytes b) => String.ofList (Text.Utf8.decodeLossy b)

/-- The text of captured output with its line breaks unified, or what is wrong with its bytes. -/
def Captured.read : Option Captured → Except String (Option String)
  | none => .ok none
  | some (.text s) => .ok (some s)
  | some (.bytes b) => (Text.Utf8.read b).map fun s => some (String.ofList (Text.unifyNewlines s))

/-- How a child process ends. -/
inductive Outcome where
  | exited (status : Int) (stdout stderr : Option Captured)
  | expired (stdout stderr : Option Captured)
  /-- The system refused to start it. -/
  | refused (reason : String)
  /-- It was not started, since its arguments cannot be passed on. -/
  | unusable (reason : String)
  deriving DecidableEq, Repr

/-- A child process that has exited with status zero. -/
structure Completed where
  stdout : Option String
  stderr : Option String
  deriving DecidableEq, Repr

/-- A child process that has failed. -/
structure Failed where
  command : List String
  status : Int
  stdout : Option String
  stderr : Option String
  deriving DecidableEq, Repr

def Failed.message (f : Failed) : String :=
  let name := f.command.head?.getD ""
  let stderr := (f.stderr.filter (!·.isEmpty)).getD "<none>"
  s!"Command '{name}' exited with status {f.status}. stderr: {stderr}"

/-- Why a command did not complete. -/
inductive RunError where
  | noCommand
  | notOnPath (name : String)
  | refused (reason : String)
  | unusable (reason : String)
  /-- It exited, and its output is not UTF-8. -/
  | undecodable (reason : String)
  /-- The system cannot wait for it so long. -/
  | unwaitable (reason : String)
  | failed (cause : Failed)
  deriving DecidableEq, Repr

def RunError.message : RunError → String
  | .noCommand => "subprocess command requires at least one argument"
  | .notOnPath name => s!"Executable '{name}' was not found on PATH"
  | .refused reason => reason
  | .unusable reason => reason
  | .undecodable reason => reason
  | .unwaitable reason => reason
  | .failed cause => cause.message

/-- The status of a child whose time was up. -/
def timeoutStatus : Int := 124

/-- What is noted when the time of a child is up. -/
def timeoutNote (call : Call) : String :=
  let name := call.argv.head?.getD ""
  let timeout := (call.timeout.map Seconds.text).getD "None"
  s!"{name} timed out after {timeout}s"

/-- Whether the time of a call is longer than the system can wait. -/
def Call.isUnwaitable (longestWait : Option Nat) (call : Call) : Bool :=
  match longestWait, call.timeout with
  | some milliseconds, some timeout => timeout.isBeyond milliseconds
  | _, _ => false

/-- What is said about a time that is too long. -/
def overflowNote (call : Call) : String :=
  if call.timeout = some (.fraction (.infinite false)) then "cannot convert float infinity to integer"
  else "timeout is too large"

/-- What the exit of a child means. The standard output is decoded first. -/
def concludeExit (call : Call) (status : Int) (stdout stderr : Option Captured) : Except RunError Completed := do
  let stdout ← (Captured.read stdout).mapError .undecodable
  let stderr ← (Captured.read stderr).mapError .undecodable
  if status = 0 then return ⟨stdout, stderr⟩ else throw (.failed ⟨call.argv, status, stdout, stderr⟩)

/-- What it means that the time of a child is up. -/
def concludeTimeout (call : Call) (stdout stderr : Option Captured) : Failed :=
  let said := Captured.toText stderr
  let note := timeoutNote call
  let stderr := if said.isEmpty then note else said ++ "\n" ++ note
  ⟨call.argv, timeoutStatus, some (Captured.toText stdout), some stderr⟩

/-- What the end of a child means. A child that has been started must be waited for. -/
def conclude (longestWait : Option Nat) (call : Call) : Outcome → Except RunError Completed
  | .refused reason => .error (.refused reason)
  | .unusable reason => .error (.unusable reason)
  | .exited status stdout stderr =>
    if call.isUnwaitable longestWait then .error (.unwaitable (overflowNote call))
    else concludeExit call status stdout stderr
  | .expired stdout stderr =>
    if call.isUnwaitable longestWait then .error (.unwaitable (overflowNote call))
    else .error (.failed (concludeTimeout call stdout stderr))

end LintBridge.Command
