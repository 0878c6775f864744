-- SUMMARY: Routines as trees of single steps, and their sequencing.
import LintBridge.Cache.Basic
import LintBridge.Diagnostic
import LintBridge.Document
import LintBridge.Host
import LintBridge.Log

/-!
# Routines

A routine either is done or asks one question and goes on with the answer. Each question is one step
that nothing can come between: a call of the operating system, or an access to the memory of the
service under its lock. Two routines that run at the same time interleave their steps, and other
programs may act between any two of them.
-/

namespace LintBridge

/-- The two output streams. -/
inductive Stream where
  | out | err
  deriving DecidableEq, Repr

/-- The kinds of messages that a client is told. -/
inductive MessageKind where
  | error | log
  deriving DecidableEq, Repr

/-- One step of a routine. -/
inductive Query where
  -- The host
  | platform
  | environment
  | executable (name : String)
  | isFile (p : Path)
  | realPath (p : Path)
  | resolve (p : Path)
  | read (p : Path)
  | modified (p : Path)
  | write (p : Path) (content : Bytes)
  | start (call : Command.Call)
  -- The memory of the service
  | document (uri : String)
  | libraryOf (file : Path)
  | packageAt (directory : Path)
  | keepPackage (directory : Path) (handle : Library.Handle)
  | keepLibrary (file : Path) (adapter : Library.Adapter)
  | configurationOf (directory : Path)
  | keepConfiguration (directory : Path) (configuration : Configuration)
  | dropConfigurations
  | clearCache
  | rootOf (source : Library.Source)
  | keepRoot (source : Library.Source) (root : Option Path)
  -- What is shown
  | log (record : Log.Record)
  | configureLog (verbose : Bool)
  -- A new service begins, with nothing in its memory
  | restart (settings : Settings)
  | publish (uri : String) (diagnostics : List Diagnostic)
  | report (message : Text.Codes)
  | tell (kind : MessageKind) (message : Text.Codes)
  | print (stream : Stream) (text : String)

/-- The type of the answer to a question. -/
abbrev Query.Answer : Query → Type
  | .platform => Platform
  | .environment => Environment
  | .executable _ => Option String
  | .isFile _ => Except FileError Bool
  | .realPath _ => Path
  | .resolve _ => Except FileTree.ResolveError Path
  | .read _ => Except FileError Bytes
  | .modified _ => Except FileError Nat
  | .write .. => Except WriteFault Unit
  | .start _ => Command.Outcome
  | .document _ => Option Document
  | .libraryOf _ => Option Library.Adapter
  | .packageAt _ => Option Library.Adapter
  | .keepPackage .. => Library.Adapter
  | .configurationOf _ => Option LoadedConfiguration
  | .keepConfiguration .. => LoadedConfiguration
  | .rootOf _ => Option (Option Path)
  | .configureLog _ => Log.Sink
  | _ => Unit

/-- A computation that goes on by single steps. -/
inductive Routine (α : Type) : Type where
  | done (a : α)
  | ask (q : Query) (next : q.Answer → Routine α)

namespace Routine

variable {α β γ : Type}

/-- Go on with what a routine gives. -/
def andThen (f : α → Routine β) : Routine α → Routine β
  | .done a => f a
  | .ask q next => .ask q fun answer => (next answer).andThen f

instance : Monad Routine where
  pure := .done
  bind r f := r.andThen f

/-- A single step. -/
def step (q : Query) : Routine q.Answer := .ask q .done

theorem andThen_done (r : Routine α) : r.andThen .done = r := by
  induction r with
  | done _ => rfl
  | ask q next ih => simp only [andThen]; congr; funext answer; exact ih answer

theorem andThen_andThen (r : Routine α) (f : α → Routine β) (g : β → Routine γ) :
    (r.andThen f).andThen g = r.andThen fun a => (f a).andThen g := by
  induction r with
  | done _ => rfl
  | ask q next ih => simp only [andThen]; congr; funext answer; exact ih answer

instance : LawfulMonad Routine :=
  LawfulMonad.mk' Routine (fun r => andThen_done r) (fun _ _ => rfl) andThen_andThen

/-- Log a record of a part of the package. -/
def logged (level : Log.Level) (part : String) (message : Text.Codes) : Routine Unit :=
  step (.log { level, logger := Log.loggerOf part, message })

end Routine

/-- A routine that may fail. -/
abbrev Attempt (ε α : Type) := ExceptT ε Routine α

/-- A step of a routine that may fail. -/
def Attempt.step {ε : Type} (q : Query) : Attempt ε q.Answer := ExceptT.lift (Routine.step q)

/-- Whether a path leads to a file; what the system says instead is put in other words. -/
def Attempt.isFile {ε : Type} (refused : FileError → ε) (p : Path) : Attempt ε Bool := do
  match ← Attempt.step (.isFile p) with
  | .ok found => return found
  | .error cause => throw (refused cause)

/-- A routine as one that may fail. -/
def Routine.attempt {ε α : Type} (r : Routine α) : Attempt ε α := ExceptT.lift r

/-- A result as the whole of a routine that may fail. -/
def Attempt.ofExcept {ε α : Type} (r : Except ε α) : Attempt ε α := ExceptT.mk (Routine.done r)

/-- A routine with its failures put in other words. -/
def Attempt.mapError {ε ε' α : Type} (f : ε → ε') (r : Attempt ε α) : Attempt ε' α :=
  ExceptT.mk (r.run.andThen fun result => .done (result.mapError f))

end LintBridge
