-- SUMMARY: A request of a client owes it one message for each record that counts as told, and sends no others.
import LintBridge.Proofs.Service.Publications
import LintBridge.Session.Calls

/-!
# Messages that are owed

An error is logged first, in a record that counts as told, and then the client is told. Between these two
steps the request owes the client a message. No request tells it anything else by itself, none ends
while it owes something, and a new service begins only with settings that the client's options make.
-/

namespace LintBridge

open Json Session

variable {α β ε : Type} {applies : Settings → Prop} {due : Option Text.Codes}

/-! ## Questions -/

/-- A question that tells the client nothing, and does not change what it is told. -/
def Query.Plain : Query → Prop
  | .log record => record.told = false
  | .tell .. | .restart _ | .configureLog _ => False
  | _ => True

theorem Query.OfLint.plain {q : Query} (h : q.OfLint) : q.Plain := by
  cases q with
  | log record => exact h
  | tell | restart | configureLog => exact h.elim
  | _ => trivial

/-- A question of a request that owes the client a message, or none, and what is owed after it. -/
inductive Query.Owes (applies : Settings → Prop) : Option Text.Codes → Query → Option Text.Codes → Prop
  | plain {q : Query} : q.Plain → Owes applies none q none
  | applied {settings : Settings} : applies settings → Owes applies none (.restart settings) none
  | logged {record : Log.Record} : record.told → Owes applies none (.log record) (some record.message)
  | told (message : Text.Codes) : Owes applies (some message) (.tell .error message) none

/-! ## Routines -/

namespace Routine

/-- A routine that owes the client a message, or none, sends what it owes and nothing else. -/
def Delivers (applies : Settings → Prop) : Option Text.Codes → Routine α → Prop
  | due, .done _ => due = none
  | due, .ask q next => ∃ due', q.Owes applies due due' ∧ ∀ answer, (next answer).Delivers applies due'

theorem delivers_ask_iff {q : Query} {next : q.Answer → Routine α} :
    (ask q next).Delivers applies due ↔
      ∃ due', q.Owes applies due due' ∧ ∀ answer, (next answer).Delivers applies due' := .rfl

theorem delivers_pure (a : α) : (pure a : Routine α).Delivers applies none := rfl

theorem delivers_step_bind {q : Query} {f : q.Answer → Routine β} {due' : Option Text.Codes}
    (howes : q.Owes applies due due') (hf : ∀ answer, (f answer).Delivers applies due') :
    (step q >>= f).Delivers applies due := ⟨due', howes, hf⟩

theorem delivers_step {q : Query} (howes : q.Owes applies due none) : (step q).Delivers applies due :=
  ⟨none, howes, fun _ => rfl⟩

theorem delivers_bind {r : Routine α} {f : α → Routine β} (hr : r.Delivers applies due)
    (hf : ∀ a, (f a).Delivers applies none) : (r >>= f).Delivers applies due := by
  change (r.andThen f).Delivers applies due
  induction r generalizing due with
  | done a =>
    cases hr
    exact hf a
  | ask q next ih =>
    obtain ⟨due', howes, hnext⟩ := hr
    exact ⟨due', howes, fun answer => ih answer (hnext answer)⟩

theorem Asks.delivers {r : Routine α} (h : r.Asks Query.Plain) : r.Delivers applies none := by
  induction r with
  | done a => rfl
  | ask q next ih => exact ⟨none, .plain h.1, fun answer => ih answer (h.2 answer)⟩

/-- What a routine owes the client before its next step. -/
def owed : Routine α → Option Text.Codes
  | .ask (.tell .error message) _ => some message
  | _ => none

/-- What a routine owes can be seen from its next step. -/
theorem Delivers.owed_eq {r : Routine α} (h : r.Delivers applies due) : r.owed = due := by
  cases r with
  | done a => exact Eq.symm h
  | ask q next =>
    obtain ⟨due', howes, -⟩ := h
    cases howes with
    | plain hq =>
      cases q with
      | tell => exact hq.elim
      | _ => rfl
    | applied _ => rfl
    | logged _ => rfl
    | told message => rfl

end Routine

namespace Attempt

/-- A routine that may fail sends the client what it owes and nothing else. -/
def Delivers (applies : Settings → Prop) (r : Attempt ε α) : Prop := Routine.Delivers applies none r.run

theorem delivers_pure (a : α) : (pure a : Attempt ε α).Delivers applies := rfl

theorem delivers_throw (e : ε) : (throw e : Attempt ε α).Delivers applies := rfl

theorem delivers_ofExcept (r : Except ε α) : (ofExcept r).Delivers applies := rfl

theorem delivers_attempt {r : Routine α} (h : r.Delivers applies none) :
    (r.attempt : Attempt ε α).Delivers applies := Routine.delivers_bind h fun _ => rfl

theorem delivers_bind {r : Attempt ε α} {f : α → Attempt ε β} (hr : r.Delivers applies)
    (hf : ∀ a, (f a).Delivers applies) : (r >>= f).Delivers applies := by
  refine Routine.delivers_bind hr fun result => ?_
  cases result with
  | ok a => exact hf a
  | error e => rfl

theorem Asks.delivers {r : Attempt ε α} (h : r.Asks Query.Plain) : r.Delivers applies :=
  Routine.Asks.delivers h

end Attempt

-- the rules are enough, and unfolding whole routines is slow
attribute [irreducible] Routine.Delivers

/-! ## Services -/

namespace Service

open Attempt

variable {s : Service}

theorem asks_plain_failuresOf (s : Service) (file : Path) (document : Document) :
    (s.failuresOf file document).Asks Query.Plain :=
  Routine.Asks.mono (fun _ => Query.OfLint.plain) (s.asks_failuresOf file document)

theorem asks_plain_lintDocument (hstore : ∀ uri, (s.documents uri).Asks Query.Plain) (uri : String) :
    (s.lintDocument uri).Asks Query.Plain :=
  asks_bind (asks_target hstore uri) fun (file, document) =>
    asks_bind (s.asks_plain_failuresOf file document) fun _ => asks_pure _

theorem delivers_runLint (hstore : ∀ uri, (s.documents uri).Asks Query.Plain)
    (hreport : ∀ message, (s.report message).Delivers applies none) (uri : String) :
    (s.runLint uri).Delivers applies := by
  have hpublish (diagnostics : List Diagnostic) :
      (step (.publish uri diagnostics) : Attempt LintError Unit).Delivers applies :=
    Asks.delivers (asks_step trivial)
  refine delivers_bind (delivers_attempt (asks_plain_lintDocument hstore uri).delivers) fun result => ?_
  cases result with
  | ok linted =>
    refine delivers_bind (delivers_ofExcept _) fun diagnostics => ?_
    exact delivers_bind (hpublish _) fun _ => delivers_pure _
  | error e =>
    have hreported : ((s.reportRun e).attempt : Attempt LintError Unit).Delivers applies :=
      delivers_attempt (hreport _)
    dsimp only
    cases e.treatment with
    | foreign => exact delivers_bind hreported fun _ => delivers_pure _
    | fatal => exact delivers_bind hreported fun _ => delivers_bind (hpublish _) fun _ => delivers_throw _
    | unresolved => exact delivers_bind hreported fun _ => delivers_bind (hpublish _) fun _ => delivers_pure _
    | passed => exact delivers_throw _

theorem delivers_fixDocument (hreport : ∀ message, (s.report message).Delivers applies none) (file : Path)
    (document : Document) (rule : Option Text.Codes) : (s.fixDocument file document rule).Delivers applies := by
  refine delivers_bind (delivers_attempt (s.asks_plain_failuresOf file document).delivers) fun result => ?_
  cases result with
  | ok failures => exact delivers_bind (delivers_ofExcept _) fun _ => delivers_pure _
  | error e =>
    have hreported : ((s.reportFix e).attempt : Attempt LintError Unit).Delivers applies :=
      delivers_attempt (hreport _)
    dsimp only
    cases e.treatment with
    | foreign => exact delivers_bind hreported fun _ => delivers_pure _
    | fatal => exact delivers_bind hreported fun _ => delivers_throw _
    | unresolved => exact delivers_bind hreported fun _ => delivers_pure _
    | passed => exact delivers_throw _

theorem delivers_fixLint (hstore : ∀ uri, (s.documents uri).Asks Query.Plain)
    (hreport : ∀ message, (s.report message).Delivers applies none) (uri : String) (rule : Option Text.Codes) :
    (s.fixLint uri rule).Delivers applies := by
  refine delivers_bind (delivers_attempt (asks_target hstore uri).delivers) fun result => ?_
  cases result with
  | ok target => exact delivers_fixDocument hreport _ _ _
  | error e =>
    have hreported : ((s.reportFix e).attempt : Attempt LintError Unit).Delivers applies :=
      delivers_attempt (hreport _)
    dsimp only
    cases e.treatment with
    | foreign => exact delivers_bind hreported fun _ => delivers_pure _
    | unresolved => exact delivers_bind hreported fun _ => delivers_pure _
    | _ => exact delivers_throw _

end Service

/-! ## Sessions -/

namespace Session

/-- An error that is reported is owed in between. -/
theorem delivers_reportError (message : Text.Codes) : (reportError message).Delivers applies none :=
  Routine.delivers_step_bind (.logged rfl) fun _ => Routine.delivers_step (.told message)

theorem asks_plain_documents (settings : Settings) (uri : String) :
    ((service settings).documents uri).Asks Query.Plain := Attempt.asks_step trivial

theorem delivers_run (settings : Settings) (params : Value) : (run settings params).Delivers applies := by
  unfold run
  split
  next uri _ =>
    refine Attempt.delivers_bind ?_ fun _ => Attempt.delivers_pure _
    exact Service.delivers_runLint (asks_plain_documents settings) delivers_reportError uri
  next => exact Attempt.delivers_attempt (delivers_reportError _)

theorem delivers_fix (settings : Settings) (params : Value) : (fix settings params).Delivers applies := by
  unfold fix
  split
  next uri _ =>
    refine Attempt.delivers_bind ?_ fun _ => Attempt.delivers_pure _
    exact Service.delivers_fixLint (asks_plain_documents settings) delivers_reportError uri _
  next =>
    exact Attempt.delivers_bind (Attempt.delivers_attempt (delivers_reportError _)) fun _ =>
      Attempt.delivers_pure _

/-- New settings are applied only if the options make them. -/
theorem delivers_configure (settings : Settings) (options : Value)
    (h : ∀ new environment, Settings.load (optionsOf options) environment = .ok new → applies new) :
    (configure settings options).Delivers applies none := by
  refine Routine.delivers_step_bind (.plain trivial) fun environment => ?_
  split
  next new hload =>
    exact Routine.delivers_step_bind (.applied (h new environment hload)) fun _ => Routine.delivers_pure _
  next e _ => exact Routine.delivers_bind (delivers_reportError _) fun _ => Routine.delivers_pure _

end Session

/-- The settings that a request may apply. -/
def ServerRequest.Applies : ServerRequest → Settings → Prop
  | .configure options, new => ∃ environment, Settings.load (optionsOf options) environment = .ok new
  | _, _ => False

/-- Every request sends the client what it owes, and applies settings only as its options make them. -/
theorem ServerCall.delivers (call : ServerCall) : call.routine.Delivers call.request.Applies none := by
  obtain ⟨settings, request⟩ := call
  cases request with
  | configure options => exact delivers_configure settings options fun new environment h => ⟨environment, h⟩
  | run params => exact delivers_run settings params
  | fix params => exact delivers_fix settings params
  | closed uri => exact Routine.Asks.delivers (Routine.asks_step trivial)
  | changed uris =>
    refine Routine.Asks.delivers (Routine.asks_bind (Routine.asks_step trivial) fun _ => ?_)
    refine Routine.Asks.mono (fun q hq => ?_) (Service.asks_logChanges (Session.service settings) uris)
    exact hq.ofLibrary.ofLint.plain
  | shutdown => exact Routine.Asks.delivers (Routine.asks_step trivial)

end LintBridge
