-- SUMMARY: The messages of a client that come while its requests are handled.
import LintBridge.Routine.Pool
import LintBridge.Session.Basic

/-!
# Overlapping messages

Each run request is handled on a thread of its own. In the meantime the client opens, changes and closes
documents and asks for further runs, and the host changes. A document is out of the table as soon as it is
closed; its diagnostics are cleared in a step of its own. A client may also configure the session anew
while its requests are handled.
-/

namespace LintBridge

open Json

/-- What a message of a client makes a session do. -/
inductive ClientCall where
  | run (params : Value)
  /-- Clear the diagnostics of a document that has been closed. -/
  | closed (uri : String)

namespace ClientCall

abbrev Result : ClientCall → Type
  | .run _ => Except LintError Unit
  | .closed _ => Unit

def routine (settings : Settings) : (call : ClientCall) → Routine call.Result
  | .run params => (Session.run settings params).run
  | .closed uri => Service.documentClosed uri

end ClientCall

/-- The calls of a session. -/
abbrev clientCalls (settings : Settings) : Calls := ⟨ClientCall, ClientCall.Result, ClientCall.routine settings⟩

/-- A message of the client, or a change of the host. -/
inductive Message (settings : Settings) (p : Pool (clientCalls settings)) : State → List ClientCall → Prop
  | run (params : Value) : Message settings p p.state [.run params]
  | opened {uri text : String} {version : Int} {s : State} :
    Session.openDocument p.state uri text version = .ok s → Message settings p s []
  | closed (uri : String) : Message settings p (Session.dropDocument p.state uri) [.closed uri]
  | hostChanged (host : Host) : Message settings p { p.state with host } []

/-! ## Sessions that are configured anew -/

/-- What a client asks of a session, or notifies it of. -/
inductive ServerRequest where
  /-- Begin a new service with these options. -/
  | configure (options : Value)
  | run (params : Value)
  | fix (params : Value)
  /-- Clear the diagnostics of a document that has been closed. -/
  | closed (uri : String)
  | changed (uris : List String)
  | shutdown

/-- A request with the settings of the service that it is handled by. -/
structure ServerCall where
  settings : Settings
  request : ServerRequest

namespace ServerCall

abbrev Result (call : ServerCall) : Type :=
  match call.request with
  | .configure _ => Settings
  | .run _ => Except LintError Unit
  | .fix _ => Except LintError (Option FixResult)
  | .closed _ | .changed _ | .shutdown => Unit

def routine : (call : ServerCall) → Routine call.Result
  | ⟨settings, .configure options⟩ => Session.configure settings options
  | ⟨settings, .run params⟩ => (Session.run settings params).run
  | ⟨settings, .fix params⟩ => (Session.fix settings params).run
  | ⟨_, .closed uri⟩ => Service.documentClosed uri
  | ⟨settings, .changed uris⟩ => (Session.service settings).configurationChanged uris
  | ⟨_, .shutdown⟩ => Service.shutdown

end ServerCall

/-- The calls of a session that may be configured anew. -/
abbrev serverCalls : Calls := ⟨ServerCall, ServerCall.Result, ServerCall.routine⟩

/-- Requests are handled by the service that is there when they come. Documents are opened, changed and
closed, the host changes, and a request that came before a new service began goes on with the memory of
the old one. -/
def serving : Surroundings serverCalls := fun p s calls =>
  (∃ host documents cache, s = { p.state with host, documents, cache }) ∧
    ∀ call ∈ calls, call.settings = p.state.settings

end LintBridge
