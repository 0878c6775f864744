-- SUMMARY: Runs and fix requests do the same work and differ only in what they make of it.
import LintBridge.Proofs.Service.Contained

/-!
# Runs and fix requests

A run and a fix request have the lint of the document in common. From one state they start the same child
processes and leave the same cache. What the lint comes to decides the end of both: the run publishes
diagnostics where the fix request gives edits, an error is reported under two beginnings of the message,
and a failure of the library fails both.
-/

namespace LintBridge

/-- The child process that an event is the start of. -/
def Event.call? : Event → Option Command.Call
  | .started call => some call
  | _ => none

namespace State

/-- The child processes that have been started. -/
def calls (s : State) : List Command.Call := s.trace.filterMap Event.call?

/-- The same child processes have been started, and the same is remembered. -/
structure SameWork (s s' : State) : Prop where
  calls : s.calls = s'.calls
  cache : s.cache = s'.cache

theorem SameWork.refl (s : State) : SameWork s s := ⟨rfl, rfl⟩

theorem SameWork.symm {s s' : State} (h : SameWork s s') : SameWork s' s := ⟨h.calls.symm, h.cache.symm⟩

theorem SameWork.trans {s s' s'' : State} (h : SameWork s s') (h' : SameWork s' s'') : SameWork s s'' :=
  ⟨h.calls.trans h'.calls, h.cache.trans h'.cache⟩

/-- Reports and publications are no work. -/
theorem sameWork_emit (s : State) {e : Event} (he : e.call? = none) : SameWork s (s.emit e) := by
  refine ⟨?_, rfl⟩
  simp [calls, emit, he]

end State

namespace Service

variable {s : Service} {uri : String} {rule : Option Text.Codes} {σ σ' : State} {e : LintError}
  {document : Document} {failures : List Failure} {file : Path}

/-- A lint that fails has found no document, or failed with one. -/
theorem target_or_lint_of_error (h : (s.lintDocument uri).runOn σ = (.error e, σ')) :
    (s.target uri).runOn σ = (.error e, σ') ∨
      ∃ file document σ₁, (s.target uri).runOn σ = (.ok (file, document), σ₁) ∧
        (s.failuresOf file document).runOn σ₁ = (.error e, σ') := by
  cases htarget : (s.target uri).runOn σ with
  | mk target σ₁ =>
  cases target with
  | error cause =>
    cases h.symm.trans (runOn_lintDocument_raised htarget)
    exact .inl rfl
  | ok target =>
  obtain ⟨file, document⟩ := target
  cases hlint : (s.failuresOf file document).runOn σ₁ with
  | mk result σ₂ =>
  cases result with
  | ok failures => cases h.symm.trans (runOn_lintDocument_linted htarget hlint)
  | error cause =>
    cases h.symm.trans (runOn_lintDocument_failed htarget hlint)
    exact .inr ⟨file, document, σ₁, rfl, hlint⟩

/-! ## What both make of a lint -/

/-- A run makes diagnostics of the failures and publishes them. -/
theorem runOn_runLint_linted (h : (s.lintDocument uri).runOn σ = (.ok (document, failures), σ')) :
    (s.runLint uri).runOn σ =
      match Diagnostic.ofFailures s.settings.source failures with
      | .ok diagnostics => (.ok (.complete diagnostics), σ'.emit (.published uri diagnostics))
      | .error cause => (.error (.position cause), σ') := by
  cases hshown : Diagnostic.ofFailures s.settings.source failures with
  | ok diagnostics => exact runOn_runLint_complete h hshown
  | error cause => exact runOn_runLint_position h hshown

/-- A fix request makes edits of the failures. -/
theorem runOn_fixLint_linted (h : (s.lintDocument uri).runOn σ = (.ok (document, failures), σ')) :
    (s.fixLint uri rule).runOn σ =
      match FixResult.ofFailures (.ofString document.text) document.version rule failures with
      | .ok result => (.ok (.complete result), σ')
      | .error cause => (.error (.position cause), σ') := by
  obtain ⟨file, σ₁, htarget, hlint⟩ := exists_target_of_linted h
  refine (runOn_fixLint_target htarget).trans ?_
  cases hresult : FixResult.ofFailures (.ofString document.text) document.version rule failures with
  | ok result => exact runOn_fixDocument_complete hlint hresult
  | error cause => exact runOn_fixDocument_position hlint hresult

/-- A fix request answers an error of a lint with a report, or the error leaves it. -/
theorem runOn_fixLint_error (rule : Option Text.Codes) (h : (s.lintDocument uri).runOn σ = (.error e, σ')) :
    (∃ outcome, (s.fixLint uri rule).runOn σ = (.ok outcome, ((s.reportFix e).run σ').2) ∧
        (e.treatment = .foreign ∨ e.treatment = .unresolved)) ∨
      ∃ left, (s.fixLint uri rule).runOn σ = (.error e, left) ∧
        (left = σ' ∨ left = ((s.reportFix e).run σ').2) ∧
        (e.treatment = .fatal ∨ e.treatment = .passed) := by
  rcases target_or_lint_of_error h with htarget | ⟨file, document, σ₁, htarget, hlint⟩
  · cases he : e.treatment with
    | foreign => exact .inl ⟨_, runOn_fixLint_refused htarget (.inl he), .inl rfl⟩
    | unresolved => exact .inl ⟨_, runOn_fixLint_refused htarget (.inr he), .inr rfl⟩
    | fatal => exact .inr ⟨_, runOn_fixLint_raised htarget (.inl he), .inl rfl, .inl rfl⟩
    | passed => exact .inr ⟨_, runOn_fixLint_raised htarget (.inr he), .inl rfl, .inr rfl⟩
  · have hfix : (s.fixLint uri rule).runOn σ = _ := runOn_fixLint_target htarget
    cases he : e.treatment with
    | foreign => exact .inl ⟨_, hfix.trans (runOn_fixDocument_withoutEdits hlint (.inl he)), .inl rfl⟩
    | unresolved => exact .inl ⟨_, hfix.trans (runOn_fixDocument_withoutEdits hlint (.inr he)), .inr rfl⟩
    | fatal => exact .inr ⟨_, hfix.trans (runOn_fixDocument_fatal hlint he), .inr rfl, .inl rfl⟩
    | passed => exact .inr ⟨_, hfix.trans (runOn_fixDocument_passed hlint he), .inl rfl, .inr rfl⟩

/-! ## Work -/

/-- After the lint a run does no more work. -/
theorem HandsOn.sameWork_runLint (hreport : s.HandsOn) {result : Except LintError (Document × List Failure)}
    (h : (s.lintDocument uri).runOn σ = (result, σ')) : σ'.SameWork ((s.runLint uri).runOn σ).2 := by
  cases result with
  | ok linted =>
    obtain ⟨document, failures⟩ := linted
    rw [runOn_runLint_linted h]
    split
    next => exact σ'.sameWork_emit rfl
    next => exact .refl σ'
  | error e =>
    obtain ⟨message, hmessage⟩ := hreport.run_reportRun e σ'
    have hreported : σ'.SameWork (σ'.emit (.reported message)) := σ'.sameWork_emit rfl
    rw [runOn_runLint_error h, hmessage]
    cases e.treatment with
    | foreign => exact hreported
    | fatal => exact hreported.trans (State.sameWork_emit _ rfl)
    | unresolved => exact hreported.trans (State.sameWork_emit _ rfl)
    | passed => exact .refl σ'

/-- After the lint a fix request does no more work. -/
theorem HandsOn.sameWork_fixLint (hreport : s.HandsOn) {result : Except LintError (Document × List Failure)}
    (h : (s.lintDocument uri).runOn σ = (result, σ')) : σ'.SameWork ((s.fixLint uri rule).runOn σ).2 := by
  cases result with
  | ok linted =>
    obtain ⟨document, failures⟩ := linted
    rw [runOn_fixLint_linted h]
    split
    next => exact .refl σ'
    next => exact .refl σ'
  | error e =>
    obtain ⟨message, hmessage⟩ := hreport.run_reportFix e σ'
    have hreported : σ'.SameWork (σ'.emit (.reported message)) := σ'.sameWork_emit rfl
    rcases runOn_fixLint_error rule h with ⟨outcome, hfix, -⟩ | ⟨left, hfix, rfl | rfl, -⟩
    · rw [hfix, hmessage]
      exact hreported
    · rw [hfix]
      exact .refl left
    · rw [hfix, hmessage]
      exact hreported

/-! ## Failures of the library -/

/-- A run raises a failure of the library exactly when the lint does. -/
theorem raised_runLint_iff {result : Except LintError (Document × List Failure)}
    (h : (s.lintDocument uri).runOn σ = (result, σ')) (cause : BridgeError) :
    ((s.runLint uri).runOn σ).1 = .error (.bridge cause) ↔ result = .error (.bridge cause) := by
  cases result with
  | ok linted =>
    obtain ⟨document, failures⟩ := linted
    rw [runOn_runLint_linted h]
    split
    next => simp
    next => simp
  | error e =>
    rw [runOn_runLint_error h]
    cases he : e.treatment with
    | foreign =>
      have hne : e ≠ .bridge cause := by rintro rfl; cases he
      simpa using hne
    | fatal => simp
    | unresolved =>
      have hne : e ≠ .bridge cause := by rintro rfl; cases he
      simpa using hne
    | passed => simp

/-- A fix request raises a failure of the library exactly when the lint does. -/
theorem raised_fixLint_iff {result : Except LintError (Document × List Failure)}
    (h : (s.lintDocument uri).runOn σ = (result, σ')) (cause : BridgeError) :
    ((s.fixLint uri rule).runOn σ).1 = .error (.bridge cause) ↔ result = .error (.bridge cause) := by
  cases result with
  | ok linted =>
    obtain ⟨document, failures⟩ := linted
    rw [runOn_fixLint_linted h]
    split
    next => simp
    next => simp
  | error e =>
    rcases runOn_fixLint_error rule h with ⟨outcome, hfix, he⟩ | ⟨left, hfix, -, -⟩
    · have hne : e ≠ .bridge cause := by rintro rfl; rcases he with he | he <;> cases he
      rw [hfix]
      simpa using hne
    · rw [hfix]
      simp

/-! ## Agreement -/

/-- A run and a fix request from one state agree. -/
structure Agrees (s : Service) (uri : String) (rule : Option Text.Codes) (σ : State) : Prop where
  /-- The same child processes are started in the same order, and the same cache is left. -/
  work : ((s.runLint uri).runOn σ).2.SameWork ((s.fixLint uri rule).runOn σ).2
  /-- The same failures of the library leave both. -/
  raised : ∀ cause, ((s.runLint uri).runOn σ).1 = .error (.bridge cause) ↔
    ((s.fixLint uri rule).runOn σ).1 = .error (.bridge cause)
  /-- The same failures become diagnostics and edits. -/
  linted : ∀ document failures σ', (s.lintDocument uri).runOn σ = (.ok (document, failures), σ') →
    (s.runLint uri).runOn σ =
        (match Diagnostic.ofFailures s.settings.source failures with
          | .ok diagnostics => (.ok (.complete diagnostics), σ'.emit (.published uri diagnostics))
          | .error cause => (.error (.position cause), σ')) ∧
      (s.fixLint uri rule).runOn σ =
        (match FixResult.ofFailures (.ofString document.text) document.version rule failures with
          | .ok result => (.ok (.complete result), σ')
          | .error cause => (.error (.position cause), σ'))
  /-- What cannot be resolved is reported by both, and clears the diagnostics and gives no edits. -/
  unresolved : ∀ file document e σ₁ σ', (s.target uri).runOn σ = (.ok (file, document), σ₁) →
    (s.failuresOf file document).runOn σ₁ = (.error e, σ') → e.treatment = .unresolved →
    (s.runLint uri).runOn σ = (.ok .cleared,
        (σ'.emit (.reported (s!"Failed to run {s.settings.packageName}. " ++ e.message))).emit
          (.published uri [])) ∧
      (s.fixLint uri rule).runOn σ =
        (.ok (.withoutEdits ⟨document.version, [], rule⟩),
          σ'.emit (.reported (s!"Failed to fix {s.settings.packageName} errors. " ++ e.message)))
  /-- A document that is not open is reported by both, and clears the diagnostics and gives nothing. -/
  notOpen : ∀ file σ', Uri.toPath uri = .ok file → (s.documents uri).runOn σ = (.ok none, σ') →
    (s.runLint uri).runOn σ = (.ok .cleared,
        (σ'.emit (.reported
          (s!"Failed to run {s.settings.packageName}. " ++ (LintError.notOpen uri).message))).emit
            (.published uri [])) ∧
      (s.fixLint uri rule).runOn σ = (.ok .refused,
        σ'.emit (.reported
          (s!"Failed to fix {s.settings.packageName} errors. " ++ (LintError.notOpen uri).message)))

/-- Runs and fix requests agree from every state. -/
theorem runLint_agrees_fixLint (s : Service) (uri : String) (rule : Option Text.Codes) (σ : State) :
    s.recorded.Agrees uri rule σ := by
  have hreport : s.recorded.HandsOn := fun _ => rfl
  obtain ⟨result, σ', hlint⟩ : ∃ result σ', (s.recorded.lintDocument uri).runOn σ = (result, σ') :=
    ⟨_, _, rfl⟩
  constructor
  case work => exact (hreport.sameWork_runLint hlint).symm.trans (hreport.sameWork_fixLint hlint)
  case raised =>
    intro cause
    rw [raised_runLint_iff hlint, raised_fixLint_iff hlint]
  case linted =>
    intro document failures σ' hlinted
    exact ⟨runOn_runLint_linted hlinted, runOn_fixLint_linted hlinted⟩
  case unresolved =>
    intro file document e σ₁ σ' htarget hfailed he
    have hrun := runOn_runLint_error (runOn_lintDocument_failed htarget hfailed)
    rw [he] at hrun
    exact ⟨hrun, (runOn_fixLint_target htarget).trans (runOn_fixDocument_withoutEdits hfailed (.inr he))⟩
  case notOpen =>
    intro file σ' hpath hstore
    have htarget := runOn_target_notOpen hpath hstore
    exact ⟨runOn_runLint_error (runOn_lintDocument_raised htarget), runOn_fixLint_refused htarget (.inr rfl)⟩

end Service

end LintBridge
