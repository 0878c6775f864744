-- SUMMARY: When a fix writes, what the write comes to, and how a fix ends that does not write.
import LintBridge.Proofs.CommandLine.Guard
import LintBridge.Proofs.Service.Publications

/-!
# Ends of a fix

Whatever other programs do between its steps, a fix changes a file in one step only. That is its last one, up to
what it says, and it comes after everything that can fail: the edits have been found, the file has been read once
more with the count that they were computed for, and they apply to its text and give characters. The system may
break the write off. Every other fix leaves the contents of all files, and the reason for it decides how it ends.
-/

namespace LintBridge

open Relation (ReflTransGen)

variable {outside : State → State → Prop} {s s' : State} {moments : List Moment}

/-! ## Moments that keep all files -/

/-- The files after the question of a moment has been answered. -/
def Moment.filesAfter (m : Moment) : FileTree := (m.question.answer m.state).2.host.files

/-- The question of a moment leaves the contents of all files. -/
def Moment.KeepsContents (m : Moment) : Prop := m.state.host.files.SameContents m.filesAfter

/-- If nothing changes the contents of files from outside either, a run keeps them as its moments do. -/
theorem Routine.Amid.sameContents {α : Type} {r : Routine α} {a : α}
    (houtside : ∀ s s', outside s s' → s.host.files.SameContents s'.host.files)
    (h : r.Amid outside s moments a s') (hkeeps : ∀ m ∈ moments, m.KeepsContents) :
    s.host.files.SameContents s'.host.files := by
  induction h with
  | done => exact .refl _
  | step _ ih => exact (List.forall_mem_cons.1 hkeeps).1.trans (ih (List.forall_mem_cons.1 hkeeps).2)
  | meanwhile hchange _ ih => exact (houtside _ _ hchange).trans (ih hkeeps)

namespace CommandLine

open Attempt FileTree

variable {file : Path} {apply verbose : Bool} {rule : Option Text.Codes} {uri : String} {named : Path}
  {result : FixResult}

/-- The fix of the project until it has linted the file, and what is left of it then. -/
def untilLinted : List Moment × Routine (Except LintError Exit) × State :=
  (fix (.ofString "/src/a.ts") true none false).run.forward 32 project

/-- The project when another program has changed the file after the lint. -/
def changed : State :=
  { untilLinted.2.2 with host := { untilLinted.2.2.host with
    files := untilLinted.2.2.host.files.set ["src", "a.ts"] (.file (some (Text.Utf8.encode "b".toList)) 2) } }

end CommandLine

end LintBridge
