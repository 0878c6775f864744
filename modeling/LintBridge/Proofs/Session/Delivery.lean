-- SUMMARY: What a client is sent: each record once while its session traces, and each reported error once.
import LintBridge.Proofs.Routine.Pool
import LintBridge.Proofs.Session.Reports

/-!
# Messages to the client

A session that traces has one handler for its client, which lets every record through; one that does not has
none. Each step keeps this, so the messages that a client has been sent can be read off the questions that were
asked: a record makes a message while the settings in force ask for it, unless it counts as told, and then
the request that has logged it sends the error itself.
-/

namespace LintBridge

open Json Session

/-! ## What is sent -/

/-- The message that an event is to the client. -/
def Event.message? : Event → Option (MessageKind × Text.Codes)
  | .told kind message => some (kind, message)
  | _ => none

/-- The messages that the client was sent so far. -/
def State.messages (s : State) : List (MessageKind × Text.Codes) := s.trace.filterMap Event.message?

/-- The messages that the client is due for a question, by whether records are traced. -/
def Query.deliveries (traced : Bool) : Query → List (MessageKind × Text.Codes)
  | .log record =>
    if traced && Log.isOwn record.logger && record.level.passes .debug && !record.told then
      [(.log, record.line)]
    else []
  | .tell kind message => [(kind, message)]
  | _ => []

/-- The settings in force after a question. -/
def Query.inForce (settings : Settings) : Query → Settings
  | .restart new => new
  | _ => settings

/-- The settings that were applied last. -/
def inForce (settings : Settings) (questions : List Query) : Settings := questions.foldl Query.inForce settings

/-- The messages that the client is due for questions, in order. -/
def deliveries (settings : Settings) : List Query → List (MessageKind × Text.Codes)
  | [] => []
  | q :: rest => q.deliveries settings.trace ++ deliveries (q.inForce settings) rest

theorem deliveries_append_singleton (settings : Settings) (questions : List Query) (q : Query) :
    deliveries settings (questions ++ [q]) =
      deliveries settings questions ++ q.deliveries (inForce settings questions).trace := by
  induction questions generalizing settings with
  | nil => simp [deliveries, inForce]
  | cons first rest ih => simp [deliveries, inForce, ih]

/-- The error that the client counts as told of by a record. -/
def Query.announced? : Query → Option (MessageKind × Text.Codes)
  | .log record => if record.told then some (.error, record.message) else none
  | _ => none

/-- The message that a request sends by itself. -/
def Query.told? : Query → Option (MessageKind × Text.Codes)
  | .tell kind message => some (kind, message)
  | _ => none

/-! ## Steps -/

namespace State

@[simp] theorem messages_emit (s : State) (e : Event) :
    (s.emit e).messages = s.messages ++ e.message?.toList := by
  cases h : e.message? with
  | none => simp [messages, emit, h]
  | some message => simp [messages, emit, h]

theorem emits_eq (events : List Event) (s : State) :
    events.foldl emit s = { s with trace := s.trace ++ events } := by
  induction events generalizing s with
  | nil => simp
  | cons e rest ih => simpa [emit] using ih (s.emit e)

/-- A record changes only what has been shown. Of that, the client is sent the lines of its handlers. -/
theorem log_eq (s : State) (record : Log.Record) :
    ∃ shown, s.log record = { s with trace := s.trace ++ shown } ∧
      shown.filterMap Event.message? = (s.sink.mirrored record).map (MessageKind.log, ·) := by
  let printed := (s.sink.lines record).map fun line => Event.printed .err (line.shown ++ "\n")
  let told := (s.sink.mirrored record).map (Event.told .log)
  refine ⟨.logged record :: (printed ++ told), emits_eq (.logged record :: (printed ++ told)) s, ?_⟩
  simp [printed, told, List.filterMap_cons, Event.message?, Function.comp_def]

theorem messages_log (s : State) (record : Log.Record) :
    (s.log record).messages = s.messages ++ (s.sink.mirrored record).map (MessageKind.log, ·) := by
  obtain ⟨shown, hlog, hmessages⟩ := s.log_eq record
  simp [hlog, messages, hmessages]

/-- There is one handler for the client if the settings ask for one, and it is sent every record. -/
structure Mirrors (s : State) : Prop where
  handlers : s.sink.mirrors = s.mirror.toList
  traced : s.mirror.isSome = s.settings.trace
  threshold : s.settings.trace → s.sink.threshold = .debug

/-- The handlers for the client send what it is due. -/
theorem Mirrors.mirrored_eq {s : State} (h : s.Mirrors) (record : Log.Record) :
    (s.sink.mirrored record).map (MessageKind.log, ·) = (Query.log record).deliveries s.settings.trace := by
  cases htrace : s.settings.trace with
  | false =>
    have hmirrors : s.sink.mirrors = [] := by
      have := h.traced.trans htrace
      simp_all [h.handlers]
    simp [Log.Sink.mirrored, Query.deliveries, hmirrors]
  | true =>
    obtain ⟨mirror, hmirror⟩ := Option.isSome_iff_exists.1 (h.traced.trans htrace)
    simp only [Log.Sink.mirrored, Query.deliveries, h.threshold htrace, h.handlers, hmirror,
      Log.Sink.mirrorThreshold]
    cases Log.isOwn record.logger <;> cases record.level.passes .debug <;> cases record.told <;> simp

/-- Applying settings adds the handler, keeps it, removes it, or leaves it out. -/
theorem Mirrors.apply {s : State} (h : s.Mirrors) (new : Settings) : (s.apply new).Mirrors := by
  obtain ⟨hhandlers, htraced, hthreshold⟩ := h
  cases hmirror : s.mirror with
  | none =>
    cases hnew : new.trace with
    | false => constructor <;> simp_all [State.apply, setMirror]
    | true => constructor <;> simp_all [State.apply, setMirror, Log.Sink.addMirror]
  | some mirror =>
    cases hnew : new.trace with
    | false => constructor <;> simp_all [State.apply, setMirror, Log.Sink.removeMirror]
    | true => constructor <;> simp_all [State.apply, setMirror]

end State

/-- A step sends the client what it is due for the question. -/
theorem Query.messages_answer {s : State} (h : s.Mirrors) (q : Query) :
    (q.answer s).2.messages = s.messages ++ q.deliveries s.settings.trace := by
  cases q with
  | log record => exact (s.messages_log record).trans (congrArg _ (h.mirrored_eq record))
  | restart new => simp [answer, State.messages, deliveries]
  | start call | publish uri diagnostics | report message | tell kind message | print stream text =>
    exact State.messages_emit _ _
  | _ => exact (List.append_nil _).symm

/-- A step that does not configure the log keeps the handler as the settings in force ask. -/
theorem Query.mirrors_answer {s : State} (h : s.Mirrors) {q : Query} (hq : ∀ verbose, q ≠ .configureLog verbose) :
    (q.answer s).2.Mirrors ∧ (q.answer s).2.settings = q.inForce s.settings := by
  cases q with
  | configureLog verbose => exact absurd rfl (hq verbose)
  | restart new => exact ⟨h.apply new, s.settings_apply new⟩
  | log record =>
    obtain ⟨shown, hlog, -⟩ := s.log_eq record
    simp only [answer, hlog]
    exact ⟨⟨h.1, h.2, h.3⟩, rfl⟩
  | _ => exact ⟨⟨h.1, h.2, h.3⟩, rfl⟩

/-! ## Runs -/

/-- The message that a task owes the client. -/
def Task.owed? (task : Task serverCalls) : Option (MessageKind × Text.Codes) :=
  task.rest.owed.map (MessageKind.error, ·)

/-- Exchanging one item of a list exchanges what it gives. -/
theorem perm_filterMap_set {α β : Type} (f : α → Option β) {l : List α} {i : Nat} {a b : α}
    (h : l[i]? = some a) :
    ((l.set i b).filterMap f ++ (f a).toList).Perm (l.filterMap f ++ (f b).toList) := by
  simp only [List.filterMap_eq_flatMap_toList]
  induction l generalizing i with
  | nil => cases h
  | cons x l ih =>
    cases i with
    | zero =>
      cases h
      simp only [List.set_cons_zero, List.flatMap_cons, List.append_assoc]
      rw [← List.append_assoc (f a).toList]
      exact List.perm_append_comm.trans (List.perm_append_comm.append_right _)
    | succ i =>
      simp only [List.set_cons_succ, List.flatMap_cons, List.append_assoc]
      exact (ih h).append_left _

/-- What a run of a session has sent and applied, by the questions that were asked. -/
structure Accounted (first : State) (questions : List Query) (p : Pool serverCalls) : Prop where
  mirrors : p.state.Mirrors
  settings : p.state.settings = inForce first.settings questions
  messages : p.state.messages = first.messages ++ deliveries first.settings questions
  applied : ∀ new, .restart new ∈ questions → ∃ call ∈ p.calls, call.request.Applies new
  delivers : ∀ task ∈ p.tasks, ∃ due, task.rest.Delivers task.call.request.Applies due
  owed : (questions.filterMap Query.announced?).Perm
    (questions.filterMap Query.told? ++ p.tasks.filterMap Task.owed?)

namespace Accounted

variable {first : State} {questions : List Query} {p : Pool serverCalls}

/-- Before any request nothing was sent. -/
theorem begin (h : first.Mirrors) : Accounted first [] ⟨first, []⟩ where
  mirrors := h
  settings := rfl
  messages := by simp [deliveries]
  applied := by simp
  delivers := by simp
  owed := .refl _

/-- What happens outside sends and applies nothing. -/
theorem receive {s : State} {calls : List ServerCall} (h : Accounted first questions p)
    (houtside : serving p s calls) : Accounted first questions (p.receive s calls) := by
  obtain ⟨⟨host, documents, cache, rfl⟩, -⟩ := houtside
  refine ⟨⟨h.mirrors.1, h.mirrors.2, h.mirrors.3⟩, h.settings, h.messages, fun new hnew => ?_, ?_, ?_⟩
  · obtain ⟨call, hcall, happlies⟩ := h.applied new hnew
    exact ⟨call, by simp [hcall], happlies⟩
  · intro task htask
    rcases List.mem_append.1 htask with htask | htask
    · exact h.delivers task htask
    · obtain ⟨call, -, rfl⟩ := List.mem_map.1 htask
      exact ⟨none, call.delivers⟩
  · have hnone : (calls.map Task.ofCall).filterMap Task.owed? = [] := by
      refine List.filterMap_eq_nil_iff.2 fun task htask => ?_
      obtain ⟨call, -, rfl⟩ := List.mem_map.1 htask
      exact congrArg _ call.delivers.owed_eq
    simpa [Pool.receive, hnone] using h.owed

/-- What is announced is owed until it is told. -/
theorem perm_of_owes {applies : Settings → Prop} {q : Query} {due due' : Option Text.Codes}
    {announced told before after : List (MessageKind × Text.Codes)} (hq : q.Owes applies due due')
    (hstep : (after ++ (due.map (MessageKind.error, ·)).toList).Perm
      (before ++ (due'.map (MessageKind.error, ·)).toList))
    (h : announced.Perm (told ++ before)) :
    (announced ++ q.announced?.toList).Perm (told ++ q.told?.toList ++ after) := by
  cases hq with
  | plain hplain =>
    have hannounced : q.announced? = none := by
      cases q with
      | log record => exact if_neg (by simp_all [Query.Plain])
      | _ => rfl
    have htold : q.told? = none := by
      cases q with
      | tell => exact hplain.elim
      | _ => rfl
    simp only [Option.map_none, Option.toList_none, List.append_nil] at hstep
    simpa [hannounced, htold] using h.trans (hstep.symm.append_left told)
  | applied _ =>
    simp only [Option.map_none, Option.toList_none, List.append_nil] at hstep
    simpa [Query.announced?, Query.told?] using h.trans (hstep.symm.append_left told)
  | @logged record htold =>
    simp only [Option.map_none, Option.toList_none, List.append_nil, Option.map_some, Option.toList_some]
      at hstep
    have hannounced := h.append_right [(MessageKind.error, record.message)]
    rw [List.append_assoc] at hannounced
    simpa [Query.announced?, Query.told?, htold] using hannounced.trans (hstep.symm.append_left told)
  | told message =>
    simp only [Option.map_none, Option.toList_none, List.append_nil, Option.map_some, Option.toList_some]
      at hstep
    have hafter := (hstep.symm.trans List.perm_append_comm).append_left told
    simpa [Query.announced?, Query.told?] using h.trans hafter

/-- A step of a task sends what the client is due for its question. -/
theorem advance {i : Nat} {call : ServerCall} {q : Query} {next : q.Answer → Routine call.Result}
    (h : Accounted first questions p) (htask : p.tasks[i]? = some ⟨call, .ask q next⟩) :
    Accounted first (questions ++ [q]) (p.advance i) := by
  obtain ⟨due, hdelivers⟩ := h.delivers _ (List.mem_of_getElem? htask)
  obtain ⟨due', howes, hnext⟩ := Routine.delivers_ask_iff.1 hdelivers
  have hconfigure : ∀ verbose, q ≠ .configureLog verbose := by
    rintro verbose rfl
    cases howes with
    | plain hplain => exact hplain
  obtain ⟨hmirrors, hsettings⟩ := Query.mirrors_answer h.mirrors hconfigure
  have hadvance := p.advance_of_ask htask
  have hstate : (p.advance i).state = (q.answer p.state).2 := congrArg Pool.state hadvance
  have htasks : (p.advance i).tasks = p.tasks.set i ⟨call, next (q.answer p.state).1⟩ :=
    congrArg Pool.tasks hadvance
  constructor
  case mirrors => exact hstate ▸ hmirrors
  case settings =>
    rw [hstate, hsettings, h.settings]
    simp [inForce]
  case messages =>
    rw [hstate, Query.messages_answer h.mirrors, h.messages, h.settings, deliveries_append_singleton,
      List.append_assoc]
  case applied =>
    intro new hnew
    rw [Pool.calls_advance]
    rcases List.mem_append.1 hnew with hnew | hnew
    · exact h.applied new hnew
    · obtain rfl := List.mem_singleton.1 hnew
      cases howes with
      | plain hplain => exact hplain.elim
      | applied happlies => exact ⟨call, List.mem_map_of_mem (List.mem_of_getElem? htask), happlies⟩
  case delivers =>
    intro task hmem
    rw [htasks] at hmem
    rcases List.mem_or_eq_of_mem_set hmem with hold | rfl
    · exact h.delivers task hold
    · exact ⟨due', hnext _⟩
  case owed =>
    have hbefore : Task.owed? ⟨call, .ask q next⟩ = due.map (MessageKind.error, ·) :=
      congrArg _ hdelivers.owed_eq
    have hafter : Task.owed? ⟨call, next (q.answer p.state).1⟩ = due'.map (MessageKind.error, ·) :=
      congrArg _ (hnext _).owed_eq
    have hset := perm_filterMap_set Task.owed? htask (b := ⟨call, next (q.answer p.state).1⟩)
    rw [hbefore, hafter, ← htasks] at hset
    simpa [List.filterMap_eq_flatMap_toList] using perm_of_owes howes hset h.owed

end Accounted

theorem accounted_of_plays {first : State} {questions : List Query} {p : Pool serverCalls}
    (hfirst : first.Mirrors) (h : Pool.Plays serving ⟨first, []⟩ questions p) : Accounted first questions p := by
  induction h with
  | refl => exact .begin hfirst
  | advance _ htask ih => exact ih.advance htask
  | receive _ houtside ih => exact ih.receive houtside

/-- The outcome of configuring a session. Options that make settings begin a new service with them. With
others everything stays but what is shown, and the client is sent one error. -/
structure Configures (settings : Settings) (options : Value) (σ : State) : Prop where
  applied : ∀ new, Settings.load (optionsOf options) σ.host.environment = .ok new →
    (configure settings options).run σ = (new, σ.apply new)
  refused : ∀ e, Settings.load (optionsOf options) σ.host.environment = .error e →
    ∃ shown, (configure settings options).run σ = (settings, { σ with trace := σ.trace ++ shown }) ∧
      shown.filterMap Event.message? = [(.error, .ofString e.message)]

/-- An error that is reported is shown to the client once, as an error. -/
theorem run_reportError (message : Text.Codes) (σ : State) :
    ∃ shown, (reportError message).run σ = ((), { σ with trace := σ.trace ++ shown }) ∧
      shown.filterMap Event.message? = [(.error, message)] := by
  obtain ⟨shown, hlog, hmessages⟩ :=
    σ.log_eq { level := .error, logger := Log.loggerOf "server", message, told := true }
  refine ⟨shown ++ [.told .error message], ?_, ?_⟩
  · change ((), (σ.log _).emit (.told .error message)) = _
    simp [hlog, State.emit]
  · simp [hmessages, Log.Sink.mirrored, Event.message?]

theorem run_configure (settings : Settings) (options : Value) (σ : State) :
    (configure settings options).run σ =
      match Settings.load (optionsOf options) σ.host.environment with
      | .ok new => (new, σ.apply new)
      | .error e => (settings, ((reportError e.message).run σ).2) := by
  change Routine.run (match Settings.load (optionsOf options) σ.host.environment with
    | .ok new => Routine.step (.restart new) >>= fun _ => pure new
    | .error e => reportError e.message >>= fun _ => pure settings) σ = _
  cases Settings.load (optionsOf options) σ.host.environment with
  | ok new => rfl
  | error e => exact Routine.run_bind _ _ σ

theorem configures (settings : Settings) (options : Value) (σ : State) : Configures settings options σ where
  applied new hload := by simp [run_configure, hload]
  refused e hload := by
    obtain ⟨shown, hrun, hmessages⟩ := run_reportError e.message σ
    exact ⟨shown, by simp [run_configure, hload, hrun], hmessages⟩

/-- However the requests of a session overlap and however often it is configured, the client has been sent what
it is due: each record once while the settings in force trace, and none otherwise. These settings are the last
that a request has applied. When all requests are done, each error that was reported has been sent once, as
an error, and no other message by a request itself. -/
theorem client_sent_what_is_due {first : State} (hfirst : first.Mirrors) {questions : List Query}
    {p : Pool serverCalls} (hplays : Pool.Plays serving ⟨first, []⟩ questions p) :
    p.state.messages = first.messages ++ deliveries first.settings questions ∧
      p.state.settings = inForce first.settings questions ∧
      (∀ new, .restart new ∈ questions → ∃ call ∈ p.calls, call.request.Applies new) ∧
      ((∀ task ∈ p.tasks, task.IsDone) →
        (questions.filterMap Query.announced?).Perm (questions.filterMap Query.told?)) ∧
      ∀ settings options σ, Configures settings options σ := by
  have h := accounted_of_plays hfirst hplays
  refine ⟨h.messages, h.settings, h.applied, fun hdone => ?_, configures⟩
  have hnone : p.tasks.filterMap Task.owed? = [] := by
    refine List.filterMap_eq_nil_iff.2 fun task htask => ?_
    obtain ⟨result, hresult⟩ := hdone task htask
    simp [Task.owed?, hresult, Routine.owed]
  simpa [hnone] using h.owed

/-! ## A session that is configured again and again -/

namespace Pool

/-- A pool with requests that have just come. -/
def request (p : Pool serverCalls) (requests : List ServerRequest) : Pool serverCalls :=
  p.receive p.state (requests.map fun request => ⟨p.state.settings, request⟩)

theorem reaches_request (p : Pool serverCalls) (requests : List ServerRequest) (order : List Nat) :
    Reaches serving p ((p.request requests).advances order) := by
  refine .trans (.tail .refl (.receive ?_) trivial) (reaches_advances _ order)
  refine ⟨⟨p.state.host, p.state.documents, p.state.cache, rfl⟩, fun call hcall => ?_⟩
  obtain ⟨request, -, rfl⟩ := List.mem_map.1 hcall
  rfl

end Pool

/-- A session that has not been configured. -/
def unconfigured : State where
  host := { files := ⟨[], []⟩, environment := [], executables := [], replies := fun _ => { outcome := .refused "" } }

/-- Tracing is asked for twice. -/
def tracingTwice : Pool serverCalls :=
  let on := ServerRequest.configure (.object [("trace", .bool true)])
  ((⟨unconfigured, []⟩ : Pool serverCalls).request [on, on]).advances [0, 0, 1, 1]

/-- A run without a document, a notification and the end of tracing overlap. The run has logged its error
before, and tells it afterwards. -/
def tracingEnded : Pool serverCalls :=
  let off := ServerRequest.configure (.object [("trace", .bool false)])
  (tracingTwice.request [.run .null, .changed ["a"], off]).advances [2, 3, 3, 4, 4, 2]

/-- There are options that make no settings, then a notification that is not traced, and then one that is. -/
def tracingAgain : Pool serverCalls :=
  let on := ServerRequest.configure (.object [("trace", .text "yes")])
  let refused := (tracingEnded.request [.configure (.object [("trace", .text "x")])]).advances [5, 5, 5]
  let resumed := (refused.request [.changed ["b"], on]).advances [6, 6, 7, 7]
  (resumed.request [.changed ["c"]]).advances [8, 8]

theorem client_sent_what_is_due_toggling :
    unconfigured.Mirrors ∧ ∃ questions, Pool.Plays serving ⟨unconfigured, []⟩ questions tracingAgain ∧
      (∀ task ∈ tracingAgain.tasks, task.IsDone) ∧
      (questions.filterMap Query.announced?).Perm (questions.filterMap Query.told?) ∧
      deliveries {} questions = [
        (.log, .ofString "tslinter.service: Detect tslint.json file change a"),
        (.error, .ofString "Failed to run tslint. Missing document URI."),
        (.error, .ofString ("invalid tslinter settings: 1 validation error for ServerSettings\ntrace\n  " ++
          "Input should be a valid boolean, unable to interpret input " ++
          "[type=bool_parsing, input_value='x', input_type=str]")),
        (.log, .ofString "tslinter.service: Detect tslint.json file change c")] := by
  have hfirst : unconfigured.Mirrors := ⟨rfl, rfl, fun h => nomatch h⟩
  have htwice : Pool.Reaches serving ⟨unconfigured, []⟩ tracingTwice := Pool.reaches_request _ _ _
  have hended : Pool.Reaches serving tracingTwice tracingEnded := Pool.reaches_request _ _ _
  have hagain : Pool.Reaches serving tracingEnded tracingAgain :=
    ((Pool.reaches_request _ _ _).trans (Pool.reaches_request _ _ _)).trans (Pool.reaches_request _ _ _)
  obtain ⟨questions, hplays⟩ := Pool.exists_plays ((htwice.trans hended).trans hagain)
  have hdone : ∀ task ∈ tracingAgain.tasks, task.IsDone := by decide +kernel
  obtain ⟨hmessages, -, -, hreported, -⟩ := client_sent_what_is_due hfirst hplays
  refine ⟨hfirst, questions, hplays, hdone, hreported hdone, ?_⟩
  refine Eq.trans (Eq.symm hmessages) ?_
  decide +kernel

end LintBridge
