-- SUMMARY: The state that routines act on, the answer to each step, and runs of whole routines.
import LintBridge.Routine.Basic

/-!
# Runs

The state of a program is the host, the memory of the service, and the trace of what was shown.
`Query.answer` says what one step does; `Routine.run` lets the steps of one routine follow each other
with nothing between them.
-/

namespace LintBridge

/-- Something that can be seen from outside. -/
inductive Event where
  | started (call : Command.Call)
  | logged (record : Log.Record)
  | published (uri : String) (diagnostics : List Diagnostic)
  | reported (message : Text.Codes)
  | told (kind : MessageKind) (message : Text.Codes)
  | printed (stream : Stream) (text : String)

/-- The state of a program. -/
structure State where
  host : Host
  cache : Cache := {}
  documents : DocumentTable := []
  /-- The settings that were applied last. -/
  settings : Settings := {}
  /-- The log of the package. -/
  sink : Log.Sink := {}
  /-- The handler that sends log records to the client, while there is one. -/
  mirror : Option Nat := none
  /-- The number of handlers that have been made for the client. -/
  mirrorsMade : Nat := 0
  /-- What was shown so far, the earliest first. -/
  trace : List Event := []

namespace State

/-- The state after something has been shown. -/
def emit (s : State) (e : Event) : State := { s with trace := s.trace ++ [e] }

/-- The state after a record has been logged. It goes to the log of the package, and from there to the
client. -/
def log (s : State) (r : Log.Record) : State :=
  let printed := (s.sink.lines r).map fun line => Event.printed .err (line.shown ++ "\n")
  let told := (s.sink.mirrored r).map (Event.told .log)
  (printed ++ told).foldl emit (s.emit (.logged r))

/-- The state after log records have been asked for, or are not wanted any more. A handler that is there is
kept, and one that is not there is not removed. -/
def setMirror (s : State) (wanted : Bool) : State :=
  match wanted, s.mirror with
  | true, none =>
    { s with
      sink := s.sink.addMirror s.mirrorsMade
      mirror := some s.mirrorsMade
      mirrorsMade := s.mirrorsMade + 1 }
  | false, some mirror => { s with sink := s.sink.removeMirror mirror, mirror := none }
  | _, _ => s

/-- The state after settings have been applied: a new service, with nothing in its memory. -/
def apply (s : State) (settings : Settings) : State := { s with settings, cache := {} }.setMirror settings.trace

/-- Nothing but the log changes with its handlers. -/
theorem setMirror_eq (s : State) (wanted : Bool) :
    s.setMirror wanted = { s with
      sink := (s.setMirror wanted).sink
      mirror := (s.setMirror wanted).mirror
      mirrorsMade := (s.setMirror wanted).mirrorsMade } := by
  unfold setMirror
  split <;> rfl

@[simp] theorem host_apply (s : State) (settings : Settings) : (s.apply settings).host = s.host := by
  rw [apply, setMirror_eq]

@[simp] theorem cache_apply (s : State) (settings : Settings) : (s.apply settings).cache = {} := by
  rw [apply, setMirror_eq]

@[simp] theorem documents_apply (s : State) (settings : Settings) :
    (s.apply settings).documents = s.documents := by
  rw [apply, setMirror_eq]

@[simp] theorem settings_apply (s : State) (settings : Settings) : (s.apply settings).settings = settings := by
  rw [apply, setMirror_eq]

@[simp] theorem trace_apply (s : State) (settings : Settings) : (s.apply settings).trace = s.trace := by
  rw [apply, setMirror_eq]

end State

/-- The answer to a question, and the state after the step. -/
def Query.answer : (q : Query) → State → q.Answer × State
  | .platform, s => (s.host.platform, s)
  | .environment, s => (s.host.environment, s)
  | .executable name, s => (Table.find? s.host.executables name, s)
  | .isFile p, s => (s.host.isFile p, s)
  | .realPath p, s => (s.host.files.realPath p, s)
  | .resolve p, s => (s.host.files.resolve p, s)
  | .read p, s => (s.host.files.read p, s)
  | .modified p, s => (s.host.files.modified p, s)
  | .write p content, s =>
    let (result, host) := s.host.write p content
    (result, { s with host })
  | .start call, s =>
    let (outcome, host) := s.host.start call
    (outcome, { s with host }.emit (.started call))
  | .document uri, s => (openDocument? s.documents uri, s)
  | .libraryOf file, s =>
    let (found, cache) := s.cache.libraryOf file
    (found, { s with cache })
  | .packageAt directory, s => (s.cache.packageAt directory, s)
  | .keepPackage directory handle, s =>
    let (adapter, cache) := s.cache.keepPackage directory handle
    (adapter, { s with cache })
  | .keepLibrary file adapter, s => ((), { s with cache := s.cache.keepLibrary file adapter })
  | .configurationOf directory, s =>
    let (found, cache) := s.cache.configurationOf directory
    (found, { s with cache })
  | .keepConfiguration directory configuration, s =>
    let (loaded, cache) := s.cache.keepConfiguration directory configuration
    (loaded, { s with cache })
  | .dropConfigurations, s => ((), { s with cache := s.cache.dropConfigurations })
  | .clearCache, s => ((), { s with cache := s.cache.clear })
  | .rootOf source, s => (s.cache.rootOf source, s)
  | .keepRoot source root, s => ((), { s with cache := s.cache.keepRoot source root })
  | .log record, s => ((), s.log record)
  | .configureLog verbose, s =>
    let sink := s.sink.configure verbose
    (sink, { s with sink })
  | .restart settings, s => ((), s.apply settings)
  | .publish uri diagnostics, s => ((), s.emit (.published uri diagnostics))
  | .report message, s => ((), s.emit (.reported message))
  | .tell kind message, s => ((), s.emit (.told kind message))
  | .print stream text, s => ((), s.emit (.printed stream text))

/-- What a routine gives when its steps follow each other, and the state after it. -/
def Routine.run {α : Type} : Routine α → State → α × State
  | .done a, s => (a, s)
  | .ask q next, s =>
    let (answer, s) := q.answer s
    (next answer).run s

/-- What a routine that may fail gives, and the state after it. -/
def Attempt.runOn {ε α : Type} (r : Attempt ε α) (s : State) : Except ε α × State :=
  Routine.run (ExceptT.run r) s

@[simp] theorem Routine.run_pure {α : Type} (a : α) (s : State) :
    (pure a : Routine α).run s = (a, s) := rfl

@[simp] theorem Routine.run_step (q : Query) (s : State) : (Routine.step q).run s = q.answer s := rfl

@[simp] theorem Routine.run_bind {α β : Type} (r : Routine α) (f : α → Routine β) (s : State) :
    (r >>= f).run s = (f (r.run s).1).run (r.run s).2 := by
  change (r.andThen f).run s = _
  induction r generalizing s with
  | done _ => rfl
  | ask q next ih => exact ih _ _

end LintBridge
