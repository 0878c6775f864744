-- SUMMARY: A lint that gives failures has given its document to one child process, and they are its response.
import LintBridge.Proofs.Bridge.Carries
import LintBridge.Proofs.Result
import LintBridge.Proofs.Routine.Lint
import LintBridge.Proofs.Routine.Started
import LintBridge.Proofs.Service.Stages

/-!
# The child process of a lint

The search for the library and for the configuration may start child processes too, but none of them is asked
to lint. After them the document is given to one process, and the failures are read from its output.
-/

namespace LintBridge

open Json

/-! ## Child processes that lint -/

/-- A question that asks no child process to lint. -/
def Query.StartsNoLint : Query → Prop
  | .start call => ¬Bridge.Carries .lint call
  | _ => True

theorem not_carries_of_startsNoLint {questions : List Query} (h : ∀ q ∈ questions, q.StartsNoLint) :
    ∀ call ∈ callsStarted questions, ¬Bridge.Carries .lint call := by
  intro call hcall
  obtain ⟨q, hq, hstart⟩ := List.mem_filterMap.1 hcall
  cases q with
  | start call' =>
    cases hstart
    exact h _ hq
  | _ => cases hstart

theorem Query.Looks.startsNoLint {q : Query} (h : q.Looks) : q.StartsNoLint := by
  cases q with
  | start call =>
    rintro ⟨handle, details, hinput⟩
    have h : call.input = none := h
    rw [h] at hinput
    cases hinput
  | _ => trivial

theorem Query.OfSearch.startsNoLint {q : Query} (h : q.OfSearch) : q.StartsNoLint := by
  cases q with
  | start call => exact Query.Looks.startsNoLint (q := .start call) h
  | _ => trivial

theorem Query.Reads.startsNoLint {q : Query} (h : q.Reads) : q.StartsNoLint := by
  cases q with
  | start call => exact h.elim
  | _ => trivial

open Attempt

theorem startsNoLint_libraryFor (settings : Settings) (file : Path) :
    (libraryFor settings file).Asks Query.StartsNoLint := by
  refine asks_bind (asks_step trivial) fun known => ?_
  cases known with
  | some known => exact asks_pure _
  | none =>
    refine asks_bind ((Library.asks_locate ..).mono fun _ => Query.OfSearch.startsNoLint) fun _ => ?_
    refine asks_bind ?_ fun adapter => asks_bind (asks_step trivial) fun _ => asks_pure _
    refine asks_bind (asks_step trivial) fun known => ?_
    cases known with
    | some known => exact asks_pure _
    | none =>
      exact asks_bind ((Library.asks_reads_load ..).mono fun _ => Query.Reads.startsNoLint)
        fun _ => asks_step trivial

theorem startsNoLint_configurationFor (settings : Settings) (file : Path) (adapter : Library.Adapter) :
    (configurationFor settings file adapter).Asks Query.StartsNoLint := by
  refine asks_bind (asks_step trivial) fun known => ?_
  cases known with
  | some known => exact asks_pure _
  | none =>
    refine asks_bind ?_ fun _ => asks_step trivial
    refine Configuration.asks_resolve_of _ _ _ (fun _ => Query.Looks.startsNoLint) ?_
    intro call details hinput hlint
    exact nomatch hlint.action_eq ⟨_, details, hinput⟩

/-! ## Responses -/

/-- A child process exits with status zero, all that it has written is UTF-8, and its output is a response whose
result is given, with at most `depth` lists and objects within each other. -/
def Command.Outcome.Responds (outcome : Command.Outcome) (depth : Nat) (result : Value) : Prop :=
  ∃ stdout stderr output errors response, outcome = .exited 0 stdout stderr ∧
    Captured.read stdout = .ok output ∧ Captured.read stderr = .ok errors ∧
      Json.read depth (output.getD "").toList = .ok (.object response) ∧ (member response "ok").isTruthy ∧
        member response "result" = result

/-- The output of a child that has completed gives a result exactly when it is a response with that. -/
theorem Bridge.resultOf_eq_ok_iff {depth : Nat} {package : String} {completed : Command.Completed}
    {result : Value} :
    resultOf depth package completed = .ok result ↔
      ∃ response, Json.read depth (completed.stdout.getD "").toList = .ok (.object response) ∧
        (member response "ok").isTruthy ∧ member response "result" = result := by
  unfold resultOf
  split
  next hread => simp [hread]
  next hread => simp [hread]
  next response hread => split <;> simp [*]
  next v hobject hread =>
    constructor
    · rintro ⟨⟩
    · rintro ⟨response, hresponse, -⟩
      exact (hobject response (Except.ok.inj (hread.symm.trans hresponse))).elim

/-! ## The exchange -/

namespace Bridge

/-- What the end of a child process that was given a request comes to. -/
def resultOfEnd (platform : Platform) (package : String) (call : Command.Call) (outcome : Command.Outcome) :
    Except LintError Value :=
  (Command.conclude platform.longestWait call outcome).mapError (failureOf package) >>=
    resultOf platform.jsonDepth package

/-- The end of a child process comes to a result exactly when it could be waited for and has responded with
that. -/
theorem resultOfEnd_eq_ok_iff {platform : Platform} {package : String} {call : Command.Call}
    {outcome : Command.Outcome} {result : Value} :
    resultOfEnd platform package call outcome = .ok result ↔
      call.isUnwaitable platform.longestWait = false ∧ outcome.Responds platform.jsonDepth result := by
  simp only [resultOfEnd, bind_eq_ok_iff, mapError_eq_ok_iff, resultOf_eq_ok_iff, Command.conclude_eq_ok_iff]
  constructor
  · rintro ⟨completed, ⟨hwait, stdout, stderr, houtcome, hout, herr⟩, response, hresponse⟩
    exact ⟨hwait, stdout, stderr, _, _, response, houtcome, hout, herr, hresponse⟩
  · rintro ⟨hwait, stdout, stderr, output, errors, response, houtcome, hout, herr, hresponse⟩
    exact ⟨⟨output, errors⟩, ⟨hwait, stdout, stderr, houtcome, hout, herr⟩, response, hresponse⟩

/-- The child process for a request, if a host has the executable for it. -/
def childOf (settings : Settings) (handle : Library.Handle) (action : Action) (details : Members)
    (cwd : Path) (host : Host) : Option Command.Call :=
  (Command.executable? host settings.nodePath).map fun executable =>
    { callOf settings handle action details cwd with argv := [executable, "-e", program handle.generation] }

theorem input_of_childOf {settings : Settings} {handle : Library.Handle} {action : Action} {details : Members}
    {cwd : Path} {host : Host} {call : Command.Call}
    (h : childOf settings handle action details cwd host = some call) :
    call.input = some (request handle action details).toJson := by
  obtain ⟨executable, -, rfl⟩ := Option.map_eq_some_iff.1 h
  rfl

/-- The error of an executable that the host does not have. -/
def executableMissing (settings : Settings) : BridgeError :=
  .notStarted (Command.RunError.notOnPath settings.nodePath).message

/-- An exchange starts the child process for its request and gives what the end of that comes to. If the host
does not have the executable it starts none, and fails. -/
theorem runOn_exchangeWith (settings : Settings) (handle : Library.Handle) (action : Action)
    (details : Members) (cwd : Path) (s : State) :
    ∃ s', callsStarted ((exchangeWith settings handle action details cwd).asked s) =
        (childOf settings handle action details cwd s.host).toList ∧
      (exchangeWith settings handle action details cwd).runOn s =
        ((childOf settings handle action details cwd s.host).elim
          (.error (.bridge (executableMissing settings)))
          fun call => resultOfEnd s.host.platform settings.packageName call
            (s.host.replies call).outcome, s') := by
  let failed (e : Command.RunError) : LintError := failureOf settings.packageName e
  let call := callOf settings handle action details cwd
  rw [exchangeWith, asked_bind_ok (runOn_attempt _ s), runOn_bind_ok (runOn_attempt _ s), callsStarted_append,
    asked_attempt, callsStarted_logged, List.nil_append]
  have hhost : ((Routine.logged .debug "library.adapter"
      s!"bridge {action.name} via {handle.path.text} ({handle.generation.name} API)").run s).2.host = s.host :=
    State.host_log ..
  generalize ((Routine.logged _ _ _).run s).2 = s₁ at hhost
  have hlater : callsStarted ((Command.run call).asked s₁) = callsStarted
      ((step .platform >>= fun platform => do
        let completed ← (Command.run call).mapError failed
        Attempt.ofExcept (resultOf platform.jsonDepth settings.packageName completed)).asked s₁) := by
    rw [asked_platform_bind, asked_bind_ofExcept, asked_mapError]
    rfl
  rw [runOn_platform_bind, ← hlater, ← hhost, childOf]
  rcases Command.runOn_run (rfl : call.argv = settings.nodePath :: _) s₁ with
    ⟨hnone, hcalls, hrun⟩ | ⟨executable, s₂, hsome, hcalls, hrun⟩
  · have hmapped : ((Command.run call).mapError failed).runOn s₁ =
        (.error (.bridge (executableMissing settings)), s₁) := by
      simp [hrun, Except.mapError, failed, failureOf, executableMissing]
    rw [hnone]
    exact ⟨s₁, hcalls, runOn_bind_error hmapped⟩
  · let started := { call with argv := [executable, "-e", program handle.generation] }
    have hmapped : ((Command.run call).mapError failed).runOn s₁ =
        ((Command.conclude s₁.host.platform.longestWait started
          (s₁.host.replies started).outcome).mapError failed, s₂) := by
      simp [hrun, started]
    rw [hsome]
    exact ⟨s₂, hcalls, runOn_bind_ofExcept hmapped _⟩

/-- What a result of a lint is read as. -/
def failuresOfResult (result : Value) : Except LintError (List Failure) :=
  (parseFailures result).mapError .ofPayload

/-- A lint starts one child process with its job, and reads the failures from what the end of that comes to.
If the executable is not found it starts none, and fails. -/
theorem runOn_lint (settings : Settings) (handle : Library.Handle) (job : LintJob) (s : State) :
    (callsStarted ((lint settings handle job).asked s) = [] ∧
        ∃ cause s', (lint settings handle job).runOn s = (.error (.bridge cause), s')) ∨
      ∃ call s', callsStarted ((lint settings handle job).asked s) = [call] ∧
        call.input = some (request handle .lint (lintDetails job handle.generation)).toJson ∧
        (lint settings handle job).runOn s =
          (resultOfEnd s.host.platform settings.packageName call (s.host.replies call).outcome >>=
            failuresOfResult, s') := by
  rw [lint, asked_bind_ofExcept]
  obtain ⟨s₁, hcalls, hrun⟩ :=
    runOn_exchangeWith settings handle .lint (lintDetails job handle.generation) job.file.parent s
  cases hchild : childOf settings handle .lint (lintDetails job handle.generation) job.file.parent s.host with
  | none =>
    rw [hchild] at hcalls hrun
    exact .inl ⟨hcalls, executableMissing settings, s₁, runOn_bind_error hrun⟩
  | some call =>
    rw [hchild] at hcalls hrun
    exact .inr ⟨call, s₁, hcalls, input_of_childOf hchild, runOn_bind_ofExcept hrun failuresOfResult⟩

/-- A lint that gives failures has started one child process with its job, and they are read from what that
has responded. -/
theorem runOn_lint_ok {settings : Settings} {handle : Library.Handle} {job : LintJob} {s s' : State}
    {failures : List Failure} (h : (lint settings handle job).runOn s = (.ok failures, s')) :
    ∃ (call : Command.Call) (result : Value),
      callsStarted ((lint settings handle job).asked s) = [call] ∧
      call.input = some (request handle .lint (lintDetails job handle.generation)).toJson ∧
      (s.host.replies call).outcome.Responds s.host.platform.jsonDepth result ∧
      parseFailures result = .ok failures := by
  rcases runOn_lint settings handle job s with ⟨-, cause, s₁, hrun⟩ | ⟨call, s₁, hcalls, hinput, hrun⟩
  · cases h.symm.trans hrun
  · obtain ⟨result, hend, hparse⟩ := bind_eq_ok_iff.1 (congrArg Prod.fst (hrun.symm.trans h))
    exact ⟨call, result, hcalls, hinput, (resultOfEnd_eq_ok_iff.1 hend).2, mapError_eq_ok_iff.1 hparse⟩

end Bridge

/-! ## The lint of a document -/

/-- A child process is to lint a document as the contents of a file. -/
def Command.Call.Lints (call : Command.Call) (file : Path) (document : Document) : Prop :=
  ∃ (handle : Library.Handle) (configuration : Path), call.input = some (Bridge.request handle .lint
    (Bridge.lintDetails { file, text := document.text, configuration } handle.generation)).toJson

/-- Of the child processes that were started only the last was to lint. It was for a document, and has
responded with a result. -/
def LintedBy (calls : List Command.Call) (host : Host) (file : Path) (document : Document)
    (result : Value) : Prop :=
  ∃ earlier call, calls = earlier ++ [call] ∧ (∀ other ∈ earlier, ¬Bridge.Carries .lint other) ∧
    call.Lints file document ∧ (host.replies call).outcome.Responds host.platform.jsonDepth result

/-- How child processes end is the same before and after a run. -/
theorem LintedBy.before {ε α : Type} {r : Attempt ε α} {s s' : State} {outcome : Except ε α}
    {calls : List Command.Call} {file : Path} {document : Document} {result : Value}
    (h : LintedBy calls s'.host file document result) (hrun : r.runOn s = (outcome, s')) :
    LintedBy calls s.host file document result := by
  obtain ⟨earlier, call, hcalls, hothers, hlints, hresponds⟩ := h
  rw [Attempt.replies_of_runOn hrun, Attempt.platform_of_runOn hrun] at hresponds
  exact ⟨earlier, call, hcalls, hothers, hlints, hresponds⟩

namespace Service

variable {s : Service} {file : Path} {document : Document} {failures : List Failure} {σ σ' : State}

/-- The child processes of a lint with what has been found are those of the bridge. -/
theorem callsStarted_lintWith (s : Service) (file : Path) (document : Document) (handle : Library.Handle)
    (configuration : Configuration) (σ : State) :
    callsStarted ((s.lintWith file document handle configuration).asked σ) =
      callsStarted ((Bridge.lint s.settings handle
        { file, text := document.text, configuration := configuration.path }).asked σ) := by
  rw [lintWith]
  cases hlint : (Bridge.lint s.settings handle
      { file, text := document.text, configuration := configuration.path }).runOn σ with
  | mk result σ' =>
    cases result with
    | error e => rw [asked_bind_error hlint]
    | ok failures =>
      rw [asked_bind_ok hlint, callsStarted_append, asked_bind_ok (runOn_attempt _ σ'), callsStarted_append]
      exact List.append_nil _

/-- The failures of a document are what one child process has responded. -/
theorem linted_of_failuresOf (h : (s.failuresOf file document).runOn σ = (.ok failures, σ')) :
    ∃ result,
      LintedBy (callsStarted ((s.failuresOf file document).asked σ)) σ.host file document result ∧
        parseFailures result = .ok failures := by
  obtain ⟨adapter, σ₁, hlibrary, h⟩ := runOn_bind_eq_ok_iff.1 h
  obtain ⟨loaded, σ₂, hconfiguration, h⟩ := runOn_bind_eq_ok_iff.1 h
  obtain ⟨found, σ₃, hlint, h⟩ := runOn_bind_eq_ok_iff.1 h
  obtain ⟨⟨⟩, σ₄, -, h⟩ := runOn_bind_eq_ok_iff.1 h
  cases h
  obtain ⟨call, result, hcalls, hinput, hresponds, hparse⟩ := Bridge.runOn_lint_ok hlint
  rw [replies_of_runOn hconfiguration, replies_of_runOn hlibrary, platform_of_runOn hconfiguration,
    platform_of_runOn hlibrary] at hresponds
  refine ⟨result, ⟨callsStarted ((libraryFor s.settings file).asked σ) ++
    callsStarted ((configurationFor s.settings file adapter).asked σ₁), call, ?_, ?_, ⟨_, _, hinput⟩,
      hresponds⟩, hparse⟩
  · rw [failuresOf, asked_bind_ok hlibrary, asked_bind_ok hconfiguration, callsStarted_append,
      callsStarted_append, callsStarted_lintWith, hcalls, List.append_assoc]
  · intro other hother
    rcases List.mem_append.1 hother with hother | hother
    · exact not_carries_of_startsNoLint ((startsNoLint_libraryFor s.settings file).asked σ) other hother
    · exact not_carries_of_startsNoLint
        ((startsNoLint_configurationFor s.settings file adapter).asked σ₁) other hother

end Service

end LintBridge
