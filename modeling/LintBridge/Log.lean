-- SUMMARY: Log records and their levels.
import LintBridge.Text.Codes

/-!
# Log records

A record names the logger it was written by, below the logger of the package. A sink with a threshold
takes the records at or above it, and hands them to its handlers: those that write to the error stream, and
those that send them to a client.
-/

namespace LintBridge.Log

inductive Level where
  | debug | info | warning | error | critical
  deriving DecidableEq, Repr

namespace Level

def name : Level → String
  | .debug => "DEBUG"
  | .info => "INFO"
  | .warning => "WARNING"
  | .error => "ERROR"
  | .critical => "CRITICAL"

/-- The place of a level in the order of severity. -/
def rank : Level → Nat
  | .debug => 0
  | .info => 1
  | .warning => 2
  | .error => 3
  | .critical => 4

/-- Whether a record of a level passes a threshold. -/
def passes (level threshold : Level) : Bool := threshold.rank ≤ level.rank

end Level

structure Record where
  level : Level
  logger : String
  message : Text.Codes
  /-- The client has been told already. -/
  told : Bool := false
  deriving DecidableEq, Repr

/-- The line that a client is sent of a record. -/
def Record.line (r : Record) : Text.Codes := r.logger ++ ": " ++ r.message

/-- The logger of the package, above all others. -/
def packageLogger : String := "tslinter"

/-- The logger of a part of the package. -/
def loggerOf (part : String) : String := packageLogger ++ "." ++ part

/-- Whether a logger is the one of the package or below it. -/
def isOwn (logger : String) : Bool :=
  logger == packageLogger || logger.toList.take (packageLogger.length + 1) == (packageLogger ++ ".").toList

/-! ## The log of the package -/

/-- Where the records of the package go. Before it is configured it has no handler and passes records on. -/
structure Sink where
  /-- The handlers that write to the error stream. -/
  handlers : Nat := 0
  /-- The handlers that send records to a client, by their numbers. -/
  mirrors : List Nat := []
  threshold : Level := .warning
  propagates : Bool := true
  deriving DecidableEq, Repr

namespace Sink

/-- The sink with one handler for the error stream, for all records or for warnings and errors. Doing this
again changes the threshold only. -/
def configure (sink : Sink) (verbose : Bool) : Sink :=
  { sink with
    handlers := if sink.handlers = 0 then 1 else sink.handlers
    threshold := if verbose then .debug else .warning
    propagates := false }

/-- The lines that a record makes. Without a handler, warnings and errors are written by themselves. -/
def lines (sink : Sink) (r : Record) : List Text.Codes :=
  if sink.handlers = 0 && sink.mirrors.isEmpty || !isOwn r.logger then
    if r.level.passes .warning then [r.message] else []
  else if r.level.passes sink.threshold then
    let level := r.level.name
    List.replicate sink.handlers (s!"{level} {r.logger}: " ++ r.message)
  else []

/-! ### Clients -/

/-- The threshold of a handler that sends records to a client. -/
def mirrorThreshold : Level := .debug

/-- The sink with a handler for a client, and with all records let through. A handler is added once only. -/
def addMirror (sink : Sink) (mirror : Nat) : Sink :=
  { sink with
    mirrors := if mirror ∈ sink.mirrors then sink.mirrors else sink.mirrors ++ [mirror]
    threshold := .debug }

/-- The sink without a handler for a client. -/
def removeMirror (sink : Sink) (mirror : Nat) : Sink := { sink with mirrors := sink.mirrors.erase mirror }

/-- The lines that the handlers for a client send, one each. What the client has been told is left out. -/
def mirrored (sink : Sink) (r : Record) : List Text.Codes :=
  if isOwn r.logger && r.level.passes sink.threshold && r.level.passes mirrorThreshold && !r.told then
    sink.mirrors.map fun _ => r.line
  else []

end Sink

end LintBridge.Log
