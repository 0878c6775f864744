-- SUMMARY: The calls on a lint service.
import LintBridge.Routine.Pool
import LintBridge.Service

/-!
# Calls on a service

A client asks a service for runs and fixes, and tells it of closed documents, of changed configuration files
and of the end.
-/

namespace LintBridge

/-- A call on a service. -/
inductive ServiceCall where
  | run (uri : String)
  | fix (uri : String) (rule : Option Text.Codes)
  | closed (uri : String)
  | changed (uris : List String)
  | shutdown

namespace ServiceCall

abbrev Result : ServiceCall → Type
  | .run _ => Except LintError RunOutcome
  | .fix .. => Except LintError FixOutcome
  | _ => Unit

def routine (s : Service) : (call : ServiceCall) → Routine call.Result
  | .run uri => (s.runLint uri).run
  | .fix uri rule => (s.fixLint uri rule).run
  | .closed uri => Service.documentClosed uri
  | .changed uris => s.configurationChanged uris
  | .shutdown => Service.shutdown

end ServiceCall

/-- The calls on a service. -/
abbrev serviceCalls (s : Service) : Calls := ⟨ServiceCall, ServiceCall.Result, ServiceCall.routine s⟩

end LintBridge
