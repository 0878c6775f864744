-- SUMMARY: A lint gives one failure for each reported entry or an error of the library, with two exceptions.
import LintBridge.Proofs.Failure
import LintBridge.Proofs.Service.LintCalls

/-!
# The boundary of the library

Whatever becomes of the child process, a lint is meant to give one failure for each entry of the result that
it is responded, or an error of the library. Two errors get across the boundary, and no others: a result that
overreaches is refused with its place, and a child process that has been started fails the lint if the system
cannot wait for it so long.
-/

namespace LintBridge

open Json

/-- What a child process has written, if it has succeeded, is within the limits of the reader, which reads at
most `depth` lists and objects within each other. -/
def Command.Outcome.WithinLimits (outcome : Command.Outcome) (depth : Nat) : Prop :=
  ∀ stdout stderr output limit, outcome = .exited 0 stdout stderr → Captured.read stdout = .ok output →
    Json.read depth (output.getD "").toList ≠ .error (.beyond limit)

namespace Bridge

variable {settings : Settings} {handle : Library.Handle} {job : LintJob} {σ : State}

/-! ## Ends and results -/

variable {platform : Platform} {package : String} {call : Command.Call} {outcome : Command.Outcome}

/-- A child process that has been started and cannot be waited for comes to an error of that. -/
theorem resultOfEnd_of_unwaitable (hstarted : outcome.Started) (hwait : call.isUnwaitable platform.longestWait = true) :
    resultOfEnd platform package call outcome = .error (.unwaitable (Command.overflowNote call)) := by
  rw [resultOfEnd, Command.conclude_eq_unwaitable_iff.2 ⟨hstarted, hwait, rfl⟩]
  rfl

/-- Every other end that does not complete comes to an error of the library. -/
theorem bridge_of_conclude {e : Command.RunError}
    (hwait : ¬(outcome.Started ∧ call.isUnwaitable platform.longestWait = true))
    (h : Command.conclude platform.longestWait call outcome = .error e) :
    ∃ cause, failureOf package e = .bridge cause := by
  cases e with
  | unwaitable reason =>
    obtain ⟨hstarted, hunwaitable, -⟩ := Command.conclude_eq_unwaitable_iff.1 h
    exact absurd ⟨hstarted, hunwaitable⟩ hwait
  | _ => exact ⟨_, rfl⟩

/-- An end that comes to no result comes to an error of the library, as far as it could be waited for and the
reader can tell. -/
theorem bridge_of_resultOfEnd {e : LintError} (h : resultOfEnd platform package call outcome = .error e)
    (hwait : ¬(outcome.Started ∧ call.isUnwaitable platform.longestWait = true))
    (hlimits : outcome.WithinLimits platform.jsonDepth) :
    ∃ cause, e = .bridge cause := by
  rcases bind_eq_error_iff.1 h with h | ⟨completed, hcompleted, h⟩
  · cases hconclude : Command.conclude platform.longestWait call outcome with
    | ok completed =>
      rw [hconclude] at h
      cases h
    | error cause =>
      rw [hconclude] at h
      cases h
      exact bridge_of_conclude hwait hconclude
  · obtain ⟨-, stdout, stderr, hend, hout, -⟩ := Command.conclude_eq_ok_iff.1 (mapError_eq_ok_iff.1 hcompleted)
    unfold resultOf at h
    split at h
    next =>
      cases h
      exact ⟨_, rfl⟩
    next limit hread => exact absurd hread (hlimits _ _ _ limit hend hout)
    next =>
      split at h
      next => cases h
      next =>
        cases h
        exact ⟨_, rfl⟩
    next =>
      cases h
      exact ⟨_, rfl⟩

/-- A result that overreaches is read as the error of a refused place. -/
theorem failuresOfResult_of_overreaches {result : Value} (h : result.ResultOverreaches) :
    ∃ report, failuresOfResult result = .error (.placeRefused report) := by
  obtain ⟨report, h⟩ := parseFailures_refused_iff.2 h
  exact ⟨report, by simp [failuresOfResult, h, Except.mapError, LintError.ofPayload]⟩

/-- Any other result is read as its failures or as an error of the library. -/
theorem failuresOfResult_of_not_overreaches {result : Value} (h : ¬ result.ResultOverreaches) :
    (∃ failures, parseFailures result = .ok failures ∧ failuresOfResult result = .ok failures) ∨
      ∃ cause, failuresOfResult result = .error (.bridge cause) := by
  cases hparse : parseFailures result with
  | ok failures => exact .inl ⟨failures, rfl, by simp [failuresOfResult, hparse, Except.mapError]⟩
  | error e =>
    have he : e.OfLibrary := by
      rintro report rfl
      exact h (parseFailures_refused_iff.1 ⟨report, hparse⟩)
    refine .inr ⟨.badResult e, ?_⟩
    simp [failuresOfResult, hparse, Except.mapError, LintError.ofPayload_of_ofLibrary he]

/-! ## Lints -/

/-- The child process that a lint has started could be waited for, and has responded with a result. -/
def Responded (settings : Settings) (handle : Library.Handle) (job : LintJob) (σ : State)
    (result : Value) : Prop :=
  ∃ call, callsStarted ((lint settings handle job).asked σ) = [call] ∧
    call.isUnwaitable σ.host.platform.longestWait = false ∧
      (σ.host.replies call).outcome.Responds σ.host.platform.jsonDepth result

/-- A lint has started a child process that the system cannot wait for so long. -/
def Outwaited (settings : Settings) (handle : Library.Handle) (job : LintJob) (σ : State) : Prop :=
  ∃ call, callsStarted ((lint settings handle job).asked σ) = [call] ∧
    call.isUnwaitable σ.host.platform.longestWait = true ∧ (σ.host.replies call).outcome.Started

/-- A lint has given one failure for each entry of the result that was responded, in order, or an error of
the library. -/
def StaysWithin (settings : Settings) (handle : Library.Handle) (job : LintJob) (σ : State) : Prop :=
  (∃ items failures, Responded settings handle job σ (.list items) ∧
      List.Forall₂ (fun entry failure => parseFailure entry = .ok failure) items failures ∧
      ((lint settings handle job).runOn σ).1 = .ok failures) ∨
    ∃ cause, ((lint settings handle job).runOn σ).1 = .error (.bridge cause)

/-- A lint that has started a child process gives what the end of that comes to. -/
theorem fst_runOn_lint_of_call {call : Command.Call}
    (hcalls : callsStarted ((lint settings handle job).asked σ) = [call]) :
    ((lint settings handle job).runOn σ).1 =
      (resultOfEnd σ.host.platform settings.packageName call (σ.host.replies call).outcome >>=
        failuresOfResult) := by
  rcases runOn_lint settings handle job σ with ⟨hnone, -⟩ | ⟨call', s', hcalls', -, hrun⟩
  · rw [hnone] at hcalls
    cases hcalls
  · rw [hcalls] at hcalls'
    cases hcalls'
    rw [hrun]

/-- A lint that was responded a result gives what that is read as. -/
theorem fst_runOn_lint {result : Value} (h : Responded settings handle job σ result) :
    ((lint settings handle job).runOn σ).1 = failuresOfResult result := by
  obtain ⟨call, hcalls, hresponds⟩ := h
  rw [fst_runOn_lint_of_call hcalls, resultOfEnd_eq_ok_iff.2 hresponds]
  rfl

/-- A lint that cannot wait for its child process raises an error of that. -/
theorem fst_runOn_lint_of_outwaited (h : Outwaited settings handle job σ) :
    ∃ reason, ((lint settings handle job).runOn σ).1 = .error (.unwaitable reason) := by
  obtain ⟨call, hcalls, hwait, hstarted⟩ := h
  rw [fst_runOn_lint_of_call hcalls, resultOfEnd_of_unwaitable hstarted hwait]
  exact ⟨_, rfl⟩

/-- A lint stays within the boundary exactly when no result overreaches and its child process is not outwaited.
A result that overreaches is refused by its place, a process that is outwaited fails the lint, and a list of
entries that can all be read is given as their failures. -/
theorem lint_stays_within_unless_overreached
    (hlimits : ∀ call ∈ callsStarted ((lint settings handle job).asked σ),
      (σ.host.replies call).outcome.WithinLimits σ.host.platform.jsonDepth) :
    (StaysWithin settings handle job σ ↔
        (¬∃ result, Responded settings handle job σ result ∧ result.ResultOverreaches) ∧
          ¬Outwaited settings handle job σ) ∧
      (∀ result, Responded settings handle job σ result → result.ResultOverreaches →
        ∃ report, ((lint settings handle job).runOn σ).1 = .error (.placeRefused report)) ∧
      (Outwaited settings handle job σ →
        ∃ reason, ((lint settings handle job).runOn σ).1 = .error (.unwaitable reason)) ∧
      ∀ items failures, Responded settings handle job σ (.list items) →
        List.Forall₂ (fun entry failure => parseFailure entry = .ok failure) items failures →
        ((lint settings handle job).runOn σ).1 = .ok failures := by
  have hrefused {result : Value} (h : Responded settings handle job σ result)
      (hover : result.ResultOverreaches) :
      ∃ report, ((lint settings handle job).runOn σ).1 = .error (.placeRefused report) := by
    obtain ⟨report, hreport⟩ := failuresOfResult_of_overreaches hover
    exact ⟨report, (fst_runOn_lint h).trans hreport⟩
  refine ⟨⟨fun hwithin => ⟨?_, fun houtwaited => ?_⟩, ?_⟩, fun _ => hrefused, fst_runOn_lint_of_outwaited, ?_⟩
  · rintro ⟨result, hresponded, hover⟩
    obtain ⟨report, hreport⟩ := hrefused hresponded hover
    rcases hwithin with ⟨_, _, -, -, h⟩ | ⟨cause, h⟩
    · cases h.symm.trans hreport
    · cases h.symm.trans hreport
  · obtain ⟨reason, hreason⟩ := fst_runOn_lint_of_outwaited houtwaited
    rcases hwithin with ⟨_, _, -, -, h⟩ | ⟨cause, h⟩
    · cases h.symm.trans hreason
    · cases h.symm.trans hreason
  · rintro ⟨hno, hwaited⟩
    rcases runOn_lint settings handle job σ with ⟨-, cause, s', hrun⟩ | ⟨call, s', hcalls, -, hrun⟩
    · exact .inr ⟨cause, congrArg Prod.fst hrun⟩
    cases hend : resultOfEnd σ.host.platform settings.packageName call
        (σ.host.replies call).outcome with
    | error e =>
      rw [hend] at hrun
      have hwait : ¬((σ.host.replies call).outcome.Started ∧ call.isUnwaitable σ.host.platform.longestWait = true) :=
        fun ⟨hstarted, hwait⟩ => hwaited ⟨call, hcalls, hwait, hstarted⟩
      obtain ⟨cause, rfl⟩ := bridge_of_resultOfEnd hend hwait (hlimits call (by simp [hcalls]))
      exact .inr ⟨cause, congrArg Prod.fst hrun⟩
    | ok result =>
      have hresponded : Responded settings handle job σ result :=
        ⟨call, hcalls, resultOfEnd_eq_ok_iff.1 hend⟩
      have hread := failuresOfResult_of_not_overreaches fun h => hno ⟨result, hresponded, h⟩
      rcases hread with ⟨failures, hparse, hread⟩ | ⟨cause, hread⟩
      · obtain ⟨items, rfl, hentries⟩ := parseFailures_eq_ok_iff.1 hparse
        exact .inl ⟨items, failures, hresponded, hentries, (fst_runOn_lint hresponded).trans hread⟩
      · exact .inr ⟨cause, (fst_runOn_lint hresponded).trans hread⟩
  · intro items failures hresponded hentries
    have hparse := parseFailures_eq_ok_iff.2 ⟨items, rfl, hentries⟩
    rw [fst_runOn_lint hresponded, failuresOfResult, hparse]
    rfl

/-- A place in the line before the first one. -/
def negativePlace : Value := .object [("position", .int 0), ("line", .int (-1)), ("character", .int 0)]

/-- The result of a lint with one entry that begins there. -/
def negativeResult : Value := .list [.object [("start", negativePlace)]]

/-- A response with that result. -/
def negativeStart : String :=
  "\x7b\"ok\":1,\"result\":[\x7b\"start\":\x7b\"position\":0,\"line\":-1,\"character\":0\x7d\x7d]\x7d"

theorem read_negativeStart :
    Json.read 989 negativeStart.toList = .ok (.object [("ok", .int 1), ("result", negativeResult)]) := by
  decide +kernel

theorem resultOverreaches_negativeResult : negativeResult.ResultOverreaches := by
  have hstart : memberOr [("start", negativePlace)] "start" "startPosition" = negativePlace := by decide +kernel
  have hcounts : negativePlace.Counts 0 (-1) 0 := ⟨_, rfl, by decide +kernel, by decide +kernel, by decide +kernel⟩
  have hover : negativePlace.Overreaches := ⟨0, -1, 0, hcounts, .inr (.inl (by decide))⟩
  have hentry : (Value.object [("start", negativePlace)]).EntryOverreaches :=
    ⟨_, rfl, .inl (hstart ▸ hover)⟩
  exact ⟨[], _, [], rfl, by simp, hentry⟩

theorem lint_overreached_negativeStart :
    let σ : State := { host := {
      files := ⟨[], []⟩
      environment := []
      executables := [("node", "/bin/node")]
      replies := fun _ => { outcome := .exited 0 (some negativeStart) none } } }
    let handle : Library.Handle := ⟨⟨.root, ["tslint"]⟩, ⟨.root, ["tslint"]⟩, none, .project, .modern⟩
    let job : LintJob := { file := ⟨.root, ["a.ts"]⟩, text := "x", configuration := ⟨.root, ["tslint.json"]⟩ }
    (∀ call ∈ callsStarted ((lint {} handle job).asked σ),
        (σ.host.replies call).outcome.WithinLimits σ.host.platform.jsonDepth) ∧
      ¬ StaysWithin {} handle job σ ∧
      ∃ report, ((lint {} handle job).runOn σ).1 = .error (.placeRefused report) := by
  intro σ handle job
  have hlimits : ∀ call ∈ callsStarted ((lint {} handle job).asked σ),
      (σ.host.replies call).outcome.WithinLimits σ.host.platform.jsonDepth := by
    rintro call - stdout stderr output limit ⟨⟩ ⟨⟩ hbeyond
    cases read_negativeStart.symm.trans hbeyond
  have hlength : (callsStarted ((lint {} handle job).asked σ)).length = 1 := by decide +kernel
  obtain ⟨call, hcalls⟩ := List.length_eq_one_iff.1 hlength
  have hresponds : (σ.host.replies call).outcome.Responds 989 negativeResult :=
    ⟨_, _, _, _, _, rfl, rfl, rfl, read_negativeStart, by decide +kernel, by decide +kernel⟩
  have hresponded : Responded {} handle job σ negativeResult := ⟨call, hcalls, rfl, hresponds⟩
  have hover := resultOverreaches_negativeResult
  obtain ⟨hwithin, hrefused, -⟩ := lint_stays_within_unless_overreached hlimits
  exact ⟨hlimits, fun h => (hwithin.1 h).1 ⟨_, hresponded, hover⟩, hrefused _ hresponded hover⟩

end Bridge

end LintBridge
