-- SUMMARY: What lint runs and fix requests come to, by what their stages come to.
import LintBridge.Proofs.Routine.RunOn
import LintBridge.Service

/-!
# Requests by stages

A run finds the document of its URI, lints it, and publishes the diagnostics of the failures; a fix
request turns them into edits. Each stage either gives what the next one needs or decides what the run or
the request comes to.
-/

namespace LintBridge.Service

variable {s : Service} {uri : String} {rule : Option Text.Codes} {file : Path} {document : Document}
  {failures : List Failure} {σ σ' : State} {e : LintError}

/-! ## Targets and lints -/

theorem runOn_fileOf (h : Uri.toPath uri = .ok file) : (fileOf uri).runOn σ = (.ok file, σ) := by
  simp [fileOf, h, Except.mapError]

theorem runOn_target_uri {cause : UriError} (h : Uri.toPath uri = .error cause) :
    (s.target uri).runOn σ = (.error (.uri cause), σ) := by
  have hfile : (fileOf uri).runOn σ = (.error (.uri cause), σ) := by simp [fileOf, h, Except.mapError]
  exact Attempt.runOn_bind_error hfile

theorem runOn_target_store (h : Uri.toPath uri = .ok file)
    (hstore : (s.documents uri).runOn σ = (.error e, σ')) : (s.target uri).runOn σ = (.error e, σ') := by
  have hdocument : (s.document uri).runOn σ = (.error e, σ') := Attempt.runOn_bind_error hstore
  refine (Attempt.runOn_bind_ok (runOn_fileOf h)).trans ?_
  exact Attempt.runOn_bind_error hdocument

theorem runOn_target_notOpen (h : Uri.toPath uri = .ok file)
    (hstore : (s.documents uri).runOn σ = (.ok none, σ')) : (s.target uri).runOn σ = (.error (.notOpen uri), σ') := by
  have hdocument : (s.document uri).runOn σ = (.error (.notOpen uri), σ') :=
    (Attempt.runOn_bind_ok hstore).trans rfl
  refine (Attempt.runOn_bind_ok (runOn_fileOf h)).trans ?_
  exact Attempt.runOn_bind_error hdocument

theorem runOn_target_open (h : Uri.toPath uri = .ok file)
    (hstore : (s.documents uri).runOn σ = (.ok (some document), σ')) :
    (s.target uri).runOn σ = (.ok (file, document), σ') := by
  have hdocument : (s.document uri).runOn σ = (.ok document, σ') := (Attempt.runOn_bind_ok hstore).trans rfl
  refine (Attempt.runOn_bind_ok (runOn_fileOf h)).trans ?_
  exact (Attempt.runOn_bind_ok hdocument).trans rfl

theorem runOn_lintDocument_raised (h : (s.target uri).runOn σ = (.error e, σ')) :
    (s.lintDocument uri).runOn σ = (.error e, σ') := Attempt.runOn_bind_error h

theorem runOn_lintDocument_failed {σ'' : State} (h : (s.target uri).runOn σ = (.ok (file, document), σ'))
    (hlint : (s.failuresOf file document).runOn σ' = (.error e, σ'')) :
    (s.lintDocument uri).runOn σ = (.error e, σ'') :=
  (Attempt.runOn_bind_ok h).trans (Attempt.runOn_bind_error hlint)

theorem runOn_lintDocument_linted {σ'' : State} (h : (s.target uri).runOn σ = (.ok (file, document), σ'))
    (hlint : (s.failuresOf file document).runOn σ' = (.ok failures, σ'')) :
    (s.lintDocument uri).runOn σ = (.ok (document, failures), σ'') :=
  (Attempt.runOn_bind_ok h).trans ((Attempt.runOn_bind_ok hlint).trans rfl)

/-- A lint that gives failures has found a document and linted it. -/
theorem exists_target_of_linted (h : (s.lintDocument uri).runOn σ = (.ok (document, failures), σ')) :
    ∃ file σ₁, (s.target uri).runOn σ = (.ok (file, document), σ₁) ∧
      (s.failuresOf file document).runOn σ₁ = (.ok failures, σ') := by
  cases htarget : (s.target uri).runOn σ with
  | mk target σ₁ =>
  cases target with
  | error e => cases h.symm.trans (runOn_lintDocument_raised htarget)
  | ok target =>
  obtain ⟨file, found⟩ := target
  cases hlint : (s.failuresOf file found).runOn σ₁ with
  | mk result σ₂ =>
  cases result with
  | error e => cases h.symm.trans (runOn_lintDocument_failed htarget hlint)
  | ok failures =>
    cases h.symm.trans (runOn_lintDocument_linted htarget hlint)
    exact ⟨file, σ₁, rfl, hlint⟩

/-! ## Runs -/

theorem runOn_runLint_complete {diagnostics : List Diagnostic}
    (h : (s.lintDocument uri).runOn σ = (.ok (document, failures), σ'))
    (hshown : Diagnostic.ofFailures s.settings.source failures = .ok diagnostics) :
    (s.runLint uri).runOn σ = (.ok (.complete diagnostics), σ'.emit (.published uri diagnostics)) := by
  refine (Attempt.runOn_bind_attempt h).trans ?_
  dsimp only
  rw [hshown]
  exact (Attempt.runOn_step_bind (.publish uri diagnostics) _ σ').trans rfl

theorem runOn_runLint_position {cause : Text.PositionError}
    (h : (s.lintDocument uri).runOn σ = (.ok (document, failures), σ'))
    (hshown : Diagnostic.ofFailures s.settings.source failures = .error cause) :
    (s.runLint uri).runOn σ = (.error (.position cause), σ') := by
  refine (Attempt.runOn_bind_attempt h).trans ?_
  dsimp only
  rw [hshown]
  rfl

/-- What a run does about an error of the lint. -/
theorem runOn_runLint_error (h : (s.lintDocument uri).runOn σ = (.error e, σ')) :
    (s.runLint uri).runOn σ =
      match e.treatment with
      | .foreign => (.ok .refused, ((s.reportRun e).run σ').2)
      | .fatal => (.error e, (((s.reportRun e).run σ').2).emit (.published uri []))
      | .unresolved => (.ok .cleared, (((s.reportRun e).run σ').2).emit (.published uri []))
      | .passed => (.error e, σ') := by
  refine (Attempt.runOn_bind_attempt h).trans ?_
  cases he : e.treatment with
  | foreign => simp [he, Except.map]
  | fatal =>
    simp only [he]
    refine (Attempt.runOn_bind_ok (Attempt.runOn_attempt (s.reportRun e) σ')).trans ?_
    exact (Attempt.runOn_step_bind (.publish uri []) _ _).trans rfl
  | unresolved =>
    simp only [he]
    refine (Attempt.runOn_bind_ok (Attempt.runOn_attempt (s.reportRun e) σ')).trans ?_
    exact (Attempt.runOn_step_bind (.publish uri []) _ _).trans rfl
  | passed => simp [he]

/-! ## Fix requests -/

theorem runOn_fixLint_target (h : (s.target uri).runOn σ = (.ok (file, document), σ')) :
    (s.fixLint uri rule).runOn σ = (s.fixDocument file document rule).runOn σ' :=
  Attempt.runOn_bind_attempt h

/-- A request without a document is refused with a report. -/
theorem runOn_fixLint_refused (h : (s.target uri).runOn σ = (.error e, σ'))
    (he : e.treatment = .foreign ∨ e.treatment = .unresolved) :
    (s.fixLint uri rule).runOn σ = (.ok .refused, ((s.reportFix e).run σ').2) := by
  refine (Attempt.runOn_bind_attempt h).trans ?_
  rcases he with he | he
  · simp [he, Except.map]
  · simp [he, Except.map]

theorem runOn_fixLint_raised (h : (s.target uri).runOn σ = (.error e, σ'))
    (he : e.treatment = .fatal ∨ e.treatment = .passed) :
    (s.fixLint uri rule).runOn σ = (.error e, σ') := by
  refine (Attempt.runOn_bind_attempt h).trans ?_
  rcases he with he | he
  · simp [he]
  · simp [he]

theorem runOn_fixDocument_complete {result : FixResult}
    (h : (s.failuresOf file document).runOn σ = (.ok failures, σ'))
    (hresult : FixResult.ofFailures (.ofString document.text) document.version rule failures = .ok result) :
    (s.fixDocument file document rule).runOn σ = (.ok (.complete result), σ') := by
  refine (Attempt.runOn_bind_attempt h).trans ?_
  simp [hresult, Except.mapError, Except.map]

theorem runOn_fixDocument_position {cause : Text.PositionError}
    (h : (s.failuresOf file document).runOn σ = (.ok failures, σ'))
    (hresult : FixResult.ofFailures (.ofString document.text) document.version rule failures =
      .error cause) :
    (s.fixDocument file document rule).runOn σ = (.error (.position cause), σ') := by
  refine (Attempt.runOn_bind_attempt h).trans ?_
  simp [hresult, Except.mapError, Except.map]

/-- A failure of the library is reported and fails the request. -/
theorem runOn_fixDocument_fatal (h : (s.failuresOf file document).runOn σ = (.error e, σ'))
    (he : e.treatment = .fatal) :
    (s.fixDocument file document rule).runOn σ = (.error e, ((s.reportFix e).run σ').2) := by
  refine (Attempt.runOn_bind_attempt h).trans ?_
  simp [he, Attempt.runOn_bind]

/-- What cannot be resolved is reported and gives no edits. -/
theorem runOn_fixDocument_withoutEdits (h : (s.failuresOf file document).runOn σ = (.error e, σ'))
    (he : e.treatment = .foreign ∨ e.treatment = .unresolved) :
    (s.fixDocument file document rule).runOn σ =
      (.ok (.withoutEdits { version := document.version, edits := [], rule }),
        ((s.reportFix e).run σ').2) := by
  refine (Attempt.runOn_bind_attempt h).trans ?_
  rcases he with he | he
  · simp [he, Except.map]
  · simp [he, Except.map]

theorem runOn_fixDocument_passed (h : (s.failuresOf file document).runOn σ = (.error e, σ'))
    (he : e.treatment = .passed) : (s.fixDocument file document rule).runOn σ = (.error e, σ') := by
  refine (Attempt.runOn_bind_attempt h).trans ?_
  simp [he]

end LintBridge.Service
