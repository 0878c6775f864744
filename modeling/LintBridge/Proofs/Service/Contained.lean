-- SUMMARY: Failures stay within their request, except for stray errors and places that no editor can show.
import LintBridge.CommandLine.Basic
import LintBridge.Proofs.Result
import LintBridge.Proofs.Routine.Lint
import LintBridge.Proofs.Routine.Shown
import LintBridge.Proofs.Service.Errors
import LintBridge.Proofs.Service.Stages
import LintBridge.Proofs.Uri
import LintBridge.Session.Basic

/-!
# Contained failures

The service means to answer every failure: a request reports one error, a run clears what an earlier run
has shown, and only failures of the library fail the request as well. It does so unless an error gets
past its handlers; then nothing is reported, and what was shown before stays.
-/

namespace LintBridge

namespace Service

variable {s : Service} {uri : String} {rule : Option Text.Codes} {σ σ' : State} {e : LintError}

/-! ## Errors that get past the handlers -/

/-- A source of documents shows nothing, and raises none of the errors that the service answers. -/
structure IsStore (documents : String → Attempt LintError (Option Document)) : Prop where
  silent : ∀ uri, (documents uri).Asks Query.Silent
  raises : ∀ uri file, Uri.toPath uri = .ok file → (documents uri).Raises (·.treatment = .passed)

/-- The table of the documents that a client has opened is a store. -/
theorem isStore_session (settings : Settings) : IsStore (Session.service settings).documents where
  silent _ := Attempt.asks_step trivial
  raises _ _ _ := Attempt.raises_step _

/-- The files on disk are a store: only a path that cannot be opened at all raises an error. -/
theorem isStore_readDocument : IsStore CommandLine.readDocument where
  silent uri := by
    refine Attempt.asks_bind (Attempt.asks_ofExcept _) fun file => ?_
    refine Attempt.asks_bind (Attempt.asks_step trivial) fun content => ?_
    split
    next => exact Attempt.asks_throw _
    next => exact Attempt.asks_pure _
    next =>
      split
      next => exact Attempt.asks_pure _
      next =>
        refine Attempt.asks_bind (Attempt.asks_step trivial) fun time => ?_
        split
        next => exact Attempt.asks_pure _
        next => exact Attempt.asks_pure _
  raises uri file hpath := by
    refine Attempt.raises_bind (Attempt.raises_ofExcept fun e h => ?_) fun file => ?_
    · rw [hpath] at h
      cases h
    refine Attempt.raises_bind (Attempt.raises_step _) fun content => ?_
    split
    next => exact Attempt.raises_throw rfl
    next => exact Attempt.raises_pure _
    next =>
      split
      next => exact Attempt.raises_pure _
      next =>
        refine Attempt.raises_bind (Attempt.raises_step _) fun time => ?_
        split
        next => exact Attempt.raises_pure _
        next => exact Attempt.raises_pure _

/-- An error of a lint gets past the handlers: the URI cannot be taken apart, the store fails, or the
error is stray. -/
inductive Strays (s : Service) (uri : String) (σ : State) : LintError → Prop
  | uri {cause : UriError} :
      Uri.toPath uri = .error cause → (∀ name, cause ≠ .notFile name) → Strays s uri σ (.uri cause)
  | store {file : Path} {e : LintError} {σ' : State} :
      Uri.toPath uri = .ok file → (s.documents uri).runOn σ = (.error e, σ') → Strays s uri σ e
  | lint {file : Path} {document : Document} {e : LintError} {σ' σ'' : State} :
      (s.target uri).runOn σ = (.ok (file, document), σ') →
      (s.failuresOf file document).runOn σ' = (.error e, σ'') → e.Stray → Strays s uri σ e

/-- An error of a lint that the service has an answer for, with the state that the lint leaves. -/
inductive Answered (s : Service) (uri : String) (σ : State) : LintError → State → Prop
  | notFile {name : String} :
      Uri.toPath uri = .error (.notFile name) → Answered s uri σ (.uri (.notFile name)) σ
  | notOpen {file : Path} {σ' : State} :
      Uri.toPath uri = .ok file → (s.documents uri).runOn σ = (.ok none, σ') →
      Answered s uri σ (.notOpen uri) σ'
  | lint {file : Path} {document : Document} {e : LintError} {σ' σ'' : State} :
      (s.target uri).runOn σ = (.ok (file, document), σ') →
      (s.failuresOf file document).runOn σ' = (.error e, σ'') →
      e.treatment = .fatal ∨ e.treatment = .unresolved → Answered s uri σ e σ''

/-- An error leaves a run past its handlers: one of the lint, or that of a place no editor can show. -/
inductive RunEscapes (s : Service) (uri : String) (σ : State) : LintError → Prop
  | stray {e : LintError} : Strays s uri σ e → RunEscapes s uri σ e
  | unshowable {document : Document} {failures : List Failure} {cause : Text.PositionError} {σ' : State} :
      (s.lintDocument uri).runOn σ = (.ok (document, failures), σ') →
      Diagnostic.ofFailures s.settings.source failures = .error cause →
      RunEscapes s uri σ (.position cause)

/-- An error leaves a fix request past its handlers: one of the lint, or that of an edit at a place no
editor can name. -/
inductive FixEscapes (s : Service) (uri : String) (rule : Option Text.Codes) (σ : State) : LintError → Prop
  | stray {e : LintError} : Strays s uri σ e → FixEscapes s uri rule σ e
  | unshowable {document : Document} {failures : List Failure} {cause : Text.PositionError} {σ' : State} :
      (s.lintDocument uri).runOn σ = (.ok (document, failures), σ') →
      FixResult.ofFailures (.ofString document.text) document.version rule failures = .error cause →
      FixEscapes s uri rule σ (.position cause)

/-! ## Contained requests -/

/-- The run of a document answers every failure. -/
structure RunContained (s : Service) (uri : String) (σ : State) : Prop where
  raised : ∀ e, ((s.runLint uri).runOn σ).1 = .error e → ∃ cause, e = .bridge cause
  reported : (∀ diagnostics, ((s.runLint uri).runOn σ).1 ≠ .ok (.complete diagnostics)) →
    ∃ message, ((s.runLint uri).runOn σ).2.reports = σ.reports ++ [message]
  cleared : Uri.HasFileScheme uri →
    (∀ diagnostics, ((s.runLint uri).runOn σ).1 ≠ .ok (.complete diagnostics)) →
    ((s.runLint uri).runOn σ).2.publications = σ.publications ++ [(uri, [])]

/-- A fix request answers every failure. -/
structure FixContained (s : Service) (uri : String) (rule : Option Text.Codes) (σ : State) : Prop where
  raised : ∀ e, ((s.fixLint uri rule).runOn σ).1 = .error e → ∃ cause, e = .bridge cause
  reported : (∀ result, ((s.fixLint uri rule).runOn σ).1 ≠ .ok (.complete result)) →
    ∃ message, ((s.fixLint uri rule).runOn σ).2.reports = σ.reports ++ [message]

/-! ## Errors of a lint -/

/-- An error of a lint gets past the handlers or has an answer. -/
theorem strays_or_answered (h : (s.lintDocument uri).runOn σ = (.error e, σ')) :
    Strays s uri σ e ∨ Answered s uri σ e σ' := by
  cases hpath : Uri.toPath uri with
  | error cause =>
    cases h.symm.trans (runOn_lintDocument_raised (runOn_target_uri hpath))
    cases cause with
    | notFile name => exact .inr (.notFile hpath)
    | _ => exact .inl (.uri hpath (fun name hname => nomatch hname))
  | ok file =>
  cases hstore : (s.documents uri).runOn σ with
  | mk found σ₁ =>
  cases found with
  | error cause =>
    cases h.symm.trans (runOn_lintDocument_raised (runOn_target_store hpath hstore))
    exact .inl (.store hpath hstore)
  | ok found =>
  cases found with
  | none =>
    cases h.symm.trans (runOn_lintDocument_raised (runOn_target_notOpen hpath hstore))
    exact .inr (.notOpen hpath hstore)
  | some document =>
  have htarget := runOn_target_open hpath hstore
  cases hlint : (s.failuresOf file document).runOn σ₁ with
  | mk failures σ₂ =>
  cases failures with
  | ok failures => cases h.symm.trans (runOn_lintDocument_linted htarget hlint)
  | error cause =>
    cases h.symm.trans (runOn_lintDocument_failed htarget hlint)
    have hcause := s.raises_failuresOf file document σ₁ e (congrArg Prod.fst hlint)
    cases hcause with
    | bridge cause => exact .inr (.lint htarget hlint (.inl rfl))
    | noLibrary package file => exact .inr (.lint htarget hlint (.inr rfl))
    | noConfiguration filename file => exact .inr (.lint htarget hlint (.inr rfl))
    | stray hstray => exact .inl (.lint htarget hlint hstray)

theorem Strays.runOn_lintDocument (h : Strays s uri σ e) :
    ∃ σ', (s.lintDocument uri).runOn σ = (.error e, σ') := by
  cases h with
  | uri hpath hcause => exact ⟨_, runOn_lintDocument_raised (runOn_target_uri hpath)⟩
  | store hpath hstore => exact ⟨_, runOn_lintDocument_raised (runOn_target_store hpath hstore)⟩
  | lint htarget hlint hstray => exact ⟨_, runOn_lintDocument_failed htarget hlint⟩

theorem Answered.runOn_lintDocument (h : Answered s uri σ e σ') :
    (s.lintDocument uri).runOn σ = (.error e, σ') := by
  cases h with
  | notFile hpath => exact runOn_lintDocument_raised (runOn_target_uri hpath)
  | notOpen hpath hstore => exact runOn_lintDocument_raised (runOn_target_notOpen hpath hstore)
  | lint htarget hlint htreatment => exact runOn_lintDocument_failed htarget hlint

theorem Strays.treatment (hstore : IsStore s.documents) (h : Strays s uri σ e) : e.treatment = .passed := by
  cases h with
  | @uri cause hpath hcause =>
    cases cause with
    | notFile name => exact absurd rfl (hcause name)
    | _ => rfl
  | store hpath hfailed => exact hstore.raises _ _ hpath _ _ (congrArg Prod.fst hfailed)
  | lint htarget hlint hstray => exact hstray.treatment

/-! ## Quiet lints -/

theorem asks_target {P : Query → Prop} (hstore : ∀ uri, (s.documents uri).Asks P) (uri : String) :
    (s.target uri).Asks P := by
  refine Attempt.asks_bind (Attempt.asks_ofExcept _) fun file => ?_
  refine Attempt.asks_bind ?_ fun document => Attempt.asks_pure _
  refine Attempt.asks_bind (hstore uri) fun found => ?_
  cases found with
  | none => exact Attempt.asks_throw _
  | some document => exact Attempt.asks_pure _

theorem asks_lintDocument (hstore : ∀ uri, (s.documents uri).Asks Query.Silent) (uri : String) :
    (s.lintDocument uri).Asks Query.Silent := by
  refine Attempt.asks_bind (asks_target hstore uri) fun (file, document) => ?_
  refine Attempt.asks_bind ?_ fun failures => Attempt.asks_pure _
  exact Routine.Asks.mono (fun q hq => by cases q <;> trivial) (asks_failuresOf s file document)

/-- A lint neither reports nor publishes. -/
theorem quiet_lintDocument (hstore : ∀ uri, (s.documents uri).Asks Query.Silent)
    {result : Except LintError (Document × List Failure)}
    (h : (s.lintDocument uri).runOn σ = (result, σ')) : σ.Quiet σ' := by
  have hquiet := (asks_lintDocument hstore uri).quiet σ
  have h : Routine.run (s.lintDocument uri).run σ = (result, σ') := h
  rwa [h] at hquiet

/-! ## Runs and fix requests -/

/-- The service with its reports handed on as they are, so that they can be counted. -/
def recorded (s : Service) : Service := { s with report := fun message => Routine.step (.report message) }

/-- The service hands its reports on, one message for each. -/
def HandsOn (s : Service) : Prop := ∀ message, s.report message = Routine.step (.report message)

theorem HandsOn.run_reportRun (hreport : s.HandsOn) (e : LintError) (σ : State) :
    ∃ message, ((s.reportRun e).run σ).2 = σ.emit (.reported message) := by
  rw [reportRun, hreport]
  exact ⟨_, rfl⟩

theorem HandsOn.run_reportFix (hreport : s.HandsOn) (e : LintError) (σ : State) :
    ∃ message, ((s.reportFix e).run σ).2 = σ.emit (.reported message) := by
  rw [reportFix, hreport]
  exact ⟨_, rfl⟩

/-- A run that has reported one error and cleared the diagnostics is contained. -/
theorem RunContained.of_cleared {outcome : Except LintError RunOutcome} {message : Text.Codes}
    (hquiet : σ.Quiet σ')
    (hrun : (s.runLint uri).runOn σ = (outcome, (σ'.emit (.reported message)).emit (.published uri [])))
    (hraised : ∀ e, outcome = .error e → ∃ cause, e = .bridge cause) : RunContained s uri σ := by
  obtain ⟨hreported, hcleared⟩ := hquiet.report_publish message uri []
  constructor
  · rwa [hrun]
  · rw [hrun]
    intro _
    exact ⟨message, hreported⟩
  · rw [hrun]
    intro _ _
    exact hcleared

/-- A run with an error that has an answer reports it, and clears the diagnostics of a file. -/
theorem Answered.runContained (hstore : IsStore s.documents) (hreport : s.HandsOn)
    (h : Answered s uri σ e σ') : RunContained s uri σ := by
  have hrun := runOn_runLint_error h.runOn_lintDocument
  have hquiet := quiet_lintDocument hstore.silent h.runOn_lintDocument
  obtain ⟨message, hmessage⟩ := hreport.run_reportRun e σ'
  rw [hmessage] at hrun
  cases h with
  | notFile hpath =>
    obtain ⟨hreported, -⟩ := hquiet.report message
    simp only [LintError.treatment] at hrun
    constructor
    · rw [hrun]
      intro e h
      cases h
    · rw [hrun]
      intro _
      exact ⟨message, hreported⟩
    · intro hfile
      exact absurd hfile (Uri.not_hasFileScheme_of_notFile hpath)
  | notOpen hpath hstore => exact .of_cleared hquiet hrun (fun e h => nomatch h)
  | lint htarget hlint htreatment =>
    rcases htreatment with htreatment | htreatment
    · simp only [htreatment] at hrun
      refine .of_cleared hquiet hrun ?_
      rintro e ⟨⟩
      exact LintError.treatment_eq_fatal_iff.1 htreatment
    · simp only [htreatment] at hrun
      exact .of_cleared hquiet hrun (fun e h => nomatch h)

/-- A fix request that has reported one error is contained. -/
theorem FixContained.of_reported {outcome : Except LintError FixOutcome} {message : Text.Codes}
    (hquiet : σ.Quiet σ')
    (hrun : (s.fixLint uri rule).runOn σ = (outcome, σ'.emit (.reported message)))
    (hraised : ∀ e, outcome = .error e → ∃ cause, e = .bridge cause) : FixContained s uri rule σ := by
  constructor
  · rwa [hrun]
  · rw [hrun]
    intro _
    exact ⟨message, (hquiet.report message).1⟩

theorem Answered.fixContained (hstore : IsStore s.documents) (hreport : s.HandsOn)
    (h : Answered s uri σ e σ') : FixContained s uri rule σ := by
  have hquiet := quiet_lintDocument hstore.silent h.runOn_lintDocument
  obtain ⟨message, hmessage⟩ := hreport.run_reportFix e σ'
  cases h with
  | notFile hpath =>
    have hrun : (s.fixLint uri rule).runOn σ = _ := runOn_fixLint_refused (runOn_target_uri hpath) (.inl rfl)
    rw [hmessage] at hrun
    exact .of_reported hquiet hrun (fun e h => nomatch h)
  | notOpen hpath hstore =>
    have hrun : (s.fixLint uri rule).runOn σ = _ :=
      runOn_fixLint_refused (runOn_target_notOpen hpath hstore) (.inr rfl)
    rw [hmessage] at hrun
    exact .of_reported hquiet hrun (fun e h => nomatch h)
  | lint htarget hlint htreatment =>
    have htarget : (s.fixLint uri rule).runOn σ = _ := runOn_fixLint_target htarget
    rcases htreatment with htreatment | htreatment
    · have hrun := htarget.trans (runOn_fixDocument_fatal hlint htreatment)
      rw [hmessage] at hrun
      refine .of_reported hquiet hrun ?_
      rintro e ⟨⟩
      exact LintError.treatment_eq_fatal_iff.1 htreatment
    · have hrun := htarget.trans (runOn_fixDocument_withoutEdits hlint (.inr htreatment))
      rw [hmessage] at hrun
      exact .of_reported hquiet hrun (fun e h => nomatch h)

/-! ## Escapes -/

/-- An error that gets past the handlers of a run leaves it with nothing reported or published. -/
theorem RunEscapes.runOn_runLint (hstore : IsStore s.documents) (h : RunEscapes s uri σ e) :
    e.treatment = .passed ∧ ∃ σ', (s.runLint uri).runOn σ = (.error e, σ') ∧ σ.Quiet σ' := by
  cases h with
  | stray hstrays =>
    have htreatment := hstrays.treatment hstore
    obtain ⟨σ', hlint⟩ := hstrays.runOn_lintDocument
    have hrun := runOn_runLint_error hlint
    simp only [htreatment] at hrun
    exact ⟨htreatment, σ', hrun, quiet_lintDocument hstore.silent hlint⟩
  | unshowable hlint hshown =>
    exact ⟨rfl, _, runOn_runLint_position hlint hshown, quiet_lintDocument hstore.silent hlint⟩

theorem Strays.runOn_fixLint (hstore : IsStore s.documents) (h : Strays s uri σ e) :
    ∃ σ', (s.fixLint uri rule).runOn σ = (.error e, σ') ∧ σ.Quiet σ' := by
  have htreatment := h.treatment hstore
  obtain ⟨σ', hlintDocument⟩ := h.runOn_lintDocument
  have hquiet := quiet_lintDocument hstore.silent hlintDocument
  cases h with
  | uri hpath hcause =>
    have htarget := runOn_target_uri (s := s) (σ := σ) hpath
    cases hlintDocument.symm.trans (runOn_lintDocument_raised htarget)
    exact ⟨_, runOn_fixLint_raised htarget (.inr htreatment), hquiet⟩
  | store hpath hfailed =>
    have htarget := runOn_target_store hpath hfailed
    cases hlintDocument.symm.trans (runOn_lintDocument_raised htarget)
    exact ⟨_, runOn_fixLint_raised htarget (.inr htreatment), hquiet⟩
  | lint htarget hlint hstray =>
    cases hlintDocument.symm.trans (runOn_lintDocument_failed htarget hlint)
    exact ⟨_, (runOn_fixLint_target htarget).trans (runOn_fixDocument_passed hlint htreatment), hquiet⟩

/-- An error that gets past the handlers of a fix request leaves it with nothing reported or published. -/
theorem FixEscapes.runOn_fixLint (hstore : IsStore s.documents) (h : FixEscapes s uri rule σ e) :
    e.treatment = .passed ∧ ∃ σ', (s.fixLint uri rule).runOn σ = (.error e, σ') ∧ σ.Quiet σ' := by
  cases h with
  | stray hstrays => exact ⟨hstrays.treatment hstore, hstrays.runOn_fixLint hstore⟩
  | unshowable hlinted hresult =>
    obtain ⟨file, σ₁, htarget, hlint⟩ := exists_target_of_linted hlinted
    have hrun := (runOn_fixLint_target htarget).trans (runOn_fixDocument_position hlint hresult)
    exact ⟨rfl, _, hrun, quiet_lintDocument hstore.silent hlinted⟩

/-- A run from which no error escapes is contained. -/
theorem runContained_of_not_escapes (hstore : IsStore s.documents) (hreport : s.HandsOn)
    (h : ∀ e, ¬ RunEscapes s uri σ e) : RunContained s uri σ := by
  cases hlint : (s.lintDocument uri).runOn σ with
  | mk result σ' =>
  cases result with
  | error e =>
    rcases strays_or_answered hlint with hstrays | hanswered
    · exact absurd (.stray hstrays) (h e)
    · exact hanswered.runContained hstore hreport
  | ok linted =>
    obtain ⟨document, failures⟩ := linted
    cases hshown : Diagnostic.ofFailures s.settings.source failures with
    | error cause => exact absurd (.unshowable hlint hshown) (h _)
    | ok diagnostics =>
      have hrun := runOn_runLint_complete hlint hshown
      constructor
      · rw [hrun]
        intro e h
        cases h
      · rw [hrun]
        intro h
        exact absurd rfl (h diagnostics)
      · rw [hrun]
        intro _ h
        exact absurd rfl (h diagnostics)

/-- A fix request from which no error escapes is contained. -/
theorem fixContained_of_not_escapes (hstore : IsStore s.documents) (hreport : s.HandsOn)
    (h : ∀ e, ¬ FixEscapes s uri rule σ e) : FixContained s uri rule σ := by
  cases hlinted : (s.lintDocument uri).runOn σ with
  | mk result σ' =>
  cases result with
  | error e =>
    rcases strays_or_answered hlinted with hstrays | hanswered
    · exact absurd (.stray hstrays) (h e)
    · exact hanswered.fixContained hstore hreport
  | ok linted =>
    obtain ⟨document, failures⟩ := linted
    obtain ⟨file, σ₁, htarget, hlint⟩ := exists_target_of_linted hlinted
    cases hresult : FixResult.ofFailures (.ofString document.text) document.version rule failures with
    | error cause => exact absurd (.unshowable hlinted hresult) (h _)
    | ok result =>
      have hrun := (runOn_fixLint_target htarget).trans (runOn_fixDocument_complete hlint hresult)
      constructor
      · rw [hrun]
        intro e h
        cases h
      · rw [hrun]
        intro h
        exact absurd rfl (h result)

/-- A request answers every failure unless an error gets past its handlers. Then that error leaves the
request, nothing is reported, and what was published before stays. -/
theorem contained_unless_escaped (hstore : IsStore s.documents) (uri : String) (rule : Option Text.Codes)
    (σ : State) :
    (RunContained s.recorded uri σ ↔ ¬ ∃ e, RunEscapes s.recorded uri σ e) ∧
      (FixContained s.recorded uri rule σ ↔ ¬ ∃ e, FixEscapes s.recorded uri rule σ e) ∧
      (∀ e, RunEscapes s.recorded uri σ e →
        ∃ σ', (s.recorded.runLint uri).runOn σ = (.error e, σ') ∧ σ.Quiet σ') ∧
      ∀ e, FixEscapes s.recorded uri rule σ e →
        ∃ σ', (s.recorded.fixLint uri rule).runOn σ = (.error e, σ') ∧ σ.Quiet σ' := by
  have hstore : IsStore s.recorded.documents := hstore
  have hreport : s.recorded.HandsOn := fun _ => rfl
  refine ⟨⟨?_, ?_⟩, ⟨?_, ?_⟩, fun e h => (h.runOn_runLint hstore).2, fun e h => (h.runOn_fixLint hstore).2⟩
  · rintro hcontained ⟨e, hescapes⟩
    obtain ⟨htreatment, σ', hrun, -⟩ := hescapes.runOn_runLint hstore
    obtain ⟨cause, rfl⟩ := hcontained.raised e (congrArg Prod.fst hrun)
    cases htreatment
  · intro h
    exact runContained_of_not_escapes hstore hreport fun e he => h ⟨e, he⟩
  · rintro hcontained ⟨e, hescapes⟩
    obtain ⟨htreatment, σ', hrun, -⟩ := hescapes.runOn_fixLint hstore
    obtain ⟨cause, rfl⟩ := hcontained.raised e (congrArg Prod.fst hrun)
    cases htreatment
  · intro h
    exact fixContained_of_not_escapes hstore hreport fun e he => h ⟨e, he⟩

/-- A project with an open document, whose library reports a line before the first one. -/
def negativeLine : State where
  host := {
    files := ⟨[(["src"], .directory), (["tslint.json"], .file (some []) 1), (["node_modules"], .directory),
      (["node_modules", "tslint"], .directory),
      (["node_modules", "tslint", "package.json"], .file (some (Text.Utf8.encode "\x7b\x7d".toList)) 1)], []⟩
    environment := []
    executables := [("node", "/bin/node")]
    -- the configuration is loaded in the root, and the document is linted in its directory
    replies := fun call =>
      let result :=
        if call.cwd = some ⟨.root, []⟩ then "\x7b\x7d"
        else "[\x7b\"start\":\x7b\"position\":0,\"line\":-1,\"character\":0\x7d\x7d]"
      { outcome := .exited 0 (some ("\x7b\"ok\":1,\"result\":" ++ result ++ "\x7d")) none } }
  documents := [{ uri := "file:///src/a.ts", text := "a", version := 1 }]

/-- The report of a place that is refused. -/
def refusal? : Except LintError (List Failure) → Option Report
  | .error (.placeRefused report) => some report
  | _ => none

theorem negativeLine_escapes :
    IsStore (Session.service {}).documents ∧
      ¬ RunContained (Session.service {}).recorded "file:///src/a.ts" negativeLine ∧
      ∃ report σ', ((Session.service {}).recorded.runLint "file:///src/a.ts").runOn negativeLine =
        (.error (.placeRefused report), σ') ∧ negativeLine.Quiet σ' := by
  have htarget : ((Session.service {}).recorded.target "file:///src/a.ts").runOn negativeLine =
      (.ok (⟨.root, ["src", "a.ts"]⟩, { uri := "file:///src/a.ts", text := "a", version := 1 }),
        negativeLine) :=
    runOn_target_open (toOption_eq_some_iff.1 (by decide +kernel)) rfl
  generalize hlint : ((Session.service {}).recorded.failuresOf ⟨.root, ["src", "a.ts"]⟩
    { uri := "file:///src/a.ts", text := "a", version := 1 }).runOn negativeLine = lint
  have hrefused : (refusal? lint.1).isSome := by
    rw [← hlint]
    decide +kernel
  obtain ⟨result, σ'⟩ := lint
  unfold refusal? at hrefused
  split at hrefused
  next report hresult =>
    cases hresult
    have hescapes : RunEscapes (Session.service {}).recorded "file:///src/a.ts" negativeLine
        (.placeRefused report) := .stray (.lint htarget hlint (.placeRefused report))
    obtain ⟨hrun, -, hleft, -⟩ :=
      contained_unless_escaped (isStore_session {}) "file:///src/a.ts" none negativeLine
    obtain ⟨σ', hraised, hquiet⟩ := hleft _ hescapes
    exact ⟨isStore_session {}, fun h => hrun.1 h ⟨_, hescapes⟩, report, σ', hraised, hquiet⟩
  next => cases hrefused

end Service

end LintBridge
