-- SUMMARY: The machine that a program runs on: files, environment, executables and child processes.
import LintBridge.Command.Basic
import LintBridge.Version.Basic

/-!
# Hosts

A host holds what a program can see and change outside itself. How a child process ends is a function
of how it was started; a child may mark one file as changed before it ends. Whatever else a child or any
other program does to the files comes between two steps, as a change of the host. The system may refuse to
say whether a path leads to a file, and it may break a write off.
-/

namespace LintBridge

/-- What a child process does. -/
structure Reply where
  outcome : Command.Outcome
  /-- A file that it marks as changed. -/
  touched : Option Path := none
  deriving DecidableEq, Repr

/-- What differs between systems, and between releases of the packages that a program is built from. -/
structure Platform where
  /-- The longest time that can be waited for, in milliseconds, if there is one. -/
  longestWait : Option Nat := none
  /-- How many lists and objects within each other the reader of JSON is left. -/
  jsonDepth : Nat := 989
  /-- How the reader of versions ignores case. -/
  caseRule : Version.CaseRule := .ascii
  deriving DecidableEq, Repr

/-- The machine that a program runs on. -/
structure Host where
  files : FileTree
  environment : Environment
  /-- The executables on the search path. -/
  executables : List (String × String)
  replies : Command.Call → Reply
  platform : Platform := {}
  /-- What the system says of a path in place of whether it leads to a file. -/
  refusals : Path → Option FileError := fun _ => none
  /-- How writing a content into a file is broken off. -/
  writeFaults : Path → Bytes → Option WriteFault := fun _ _ => none

namespace Host

/-- Start a child process. -/
def start (h : Host) (call : Command.Call) : Command.Outcome × Host :=
  let reply := h.replies call
  match reply.touched with
  | some p => (reply.outcome, { h with files := h.files.touch p })
  | none => (reply.outcome, h)

/-- Whether a path leads to a file. A refusal that says that nothing stands there is an answer too. -/
def isFile (h : Host) (p : Path) : Except FileError Bool :=
  match h.refusals p with
  | none => .ok (h.files.isFile p)
  | some e => if e.isAbsence then .ok false else .error e

/-- The files after a write that is broken off: the file holds the beginning of the content, if it was opened. -/
def filesAfterFault (h : Host) (p : Path) (content : Bytes) (fault : WriteFault) : FileTree :=
  match fault.written with
  | none => h.files
  | some count => (h.files.write p (content.take count)).toOption.getD h.files

/-- Write a file. -/
def write (h : Host) (p : Path) (content : Bytes) : Except WriteFault Unit × Host :=
  match h.writeFaults p content with
  | some fault => (.error fault, { h with files := h.filesAfterFault p content fault })
  | none =>
    match h.files.write p content with
    | .ok files => (.ok (), { h with files })
    | .error cause => (.error { cause }, h)

end Host

end LintBridge
