-- SUMMARY: The child processes that a run starts, and what a command that is run comes to.
import LintBridge.Command.Run
import LintBridge.Proofs.Routine.Asked

/-!
# Child processes of a run

A run starts child processes with some of its questions, and what they do stays the same meanwhile. A command
starts one, if the host has its executable, and concludes from its end.
-/

namespace LintBridge

/-! ## Processes that are started -/

/-- The child process that a question starts. -/
def Query.call? : Query → Option Command.Call
  | .start call => some call
  | _ => none

/-- The child processes that some questions start, in order. -/
def callsStarted (questions : List Query) : List Command.Call := questions.filterMap Query.call?

theorem callsStarted_append (questions questions' : List Query) :
    callsStarted (questions ++ questions') = callsStarted questions ++ callsStarted questions' :=
  List.filterMap_append

/-- Nothing of a host but its files changes in a step. -/
theorem Query.host_answer (q : Query) (s : State) : ∃ files, (q.answer s).2.host = { s.host with files } := by
  cases q with
  | write p content =>
    simp only [Query.answer, Host.write]
    split
    next => exact ⟨_, rfl⟩
    next => split <;> exact ⟨_, rfl⟩
  | start call =>
    simp only [Query.answer, Host.start]
    split <;> exact ⟨_, rfl⟩
  | log record => exact ⟨_, State.host_log s record⟩
  | restart settings => exact ⟨_, State.host_apply s settings⟩
  | _ => exact ⟨_, rfl⟩

/-- Nothing of a host but its files changes during a run. -/
theorem Routine.host_run {α : Type} (r : Routine α) (s : State) :
    ∃ files, (r.run s).2.host = { s.host with files } := by
  induction r generalizing s with
  | done a => exact ⟨_, rfl⟩
  | ask q next ih =>
    obtain ⟨files, hstep⟩ := q.host_answer s
    obtain ⟨files', hrun⟩ := ih _ (q.answer s).2
    exact ⟨files', hrun.trans (by rw [hstep])⟩

/-- What child processes do stays the same during a run. -/
theorem Routine.replies_run {α : Type} (r : Routine α) (s : State) :
    (r.run s).2.host.replies = s.host.replies := by
  obtain ⟨files, h⟩ := r.host_run s
  rw [h]

theorem Routine.platform_run {α : Type} (r : Routine α) (s : State) :
    (r.run s).2.host.platform = s.host.platform := by
  obtain ⟨files, h⟩ := r.host_run s
  rw [h]

theorem Attempt.replies_of_runOn {ε α : Type} {r : Attempt ε α} {s s' : State} {result : Except ε α}
    (h : r.runOn s = (result, s')) : s'.host.replies = s.host.replies :=
  (congrArg (·.2.host.replies) h).symm.trans (Routine.replies_run r.run s)

theorem Attempt.platform_of_runOn {ε α : Type} {r : Attempt ε α} {s s' : State} {result : Except ε α}
    (h : r.runOn s = (result, s')) : s'.host.platform = s.host.platform :=
  (congrArg (·.2.host.platform) h).symm.trans (Routine.platform_run r.run s)

/-! ## Commands -/

open Attempt

/-- A child completes if it exits with status zero and its output is UTF-8, and it can be waited for. -/
theorem Command.conclude_eq_ok_iff {longestWait : Option Nat} {call : Call} {outcome : Outcome}
    {completed : Completed} :
    conclude longestWait call outcome = .ok completed ↔
      call.isUnwaitable longestWait = false ∧
        ∃ stdout stderr, outcome = .exited 0 stdout stderr ∧ Captured.read stdout = .ok completed.stdout ∧
          Captured.read stderr = .ok completed.stderr := by
  obtain ⟨out, err⟩ := completed
  cases outcome with
  | exited status stdout stderr =>
    cases hwait : call.isUnwaitable longestWait <;> cases hout : Captured.read stdout <;>
      cases herr : Captured.read stderr <;> by_cases hstatus : status = 0 <;>
      simp [conclude, concludeExit, hwait, hout, herr, hstatus, Except.mapError, bind, Except.bind, pure,
        Except.pure, throw, throwThe, MonadExceptOf.throw]
  | expired stdout stderr => cases hwait : call.isUnwaitable longestWait <;> simp [conclude, hwait]
  | refused reason => simp [conclude]
  | unusable reason => simp [conclude]

/-- A child process has been started. -/
def Command.Outcome.Started : Command.Outcome → Prop
  | .exited .. | .expired .. => True
  | .refused _ | .unusable _ => False

/-- A child process that has been started must be waited for, and nothing else is reported if it cannot be. -/
theorem Command.conclude_eq_unwaitable_iff {longestWait : Option Nat} {call : Call} {outcome : Outcome}
    {reason : String} :
    conclude longestWait call outcome = .error (.unwaitable reason) ↔
      outcome.Started ∧ call.isUnwaitable longestWait = true ∧ reason = overflowNote call := by
  cases outcome with
  | exited status stdout stderr =>
    cases hwait : call.isUnwaitable longestWait <;> cases hout : Captured.read stdout <;>
      cases herr : Captured.read stderr <;> by_cases hstatus : status = 0 <;>
      simp [conclude, concludeExit, Outcome.Started, hwait, hout, herr, hstatus, Except.mapError, bind, Except.bind,
        pure, Except.pure, throw, throwThe, MonadExceptOf.throw, eq_comm]
  | expired stdout stderr =>
    cases hwait : call.isUnwaitable longestWait <;> simp [conclude, Outcome.Started, hwait, eq_comm]
  | refused reason => simp [conclude, Outcome.Started]
  | unusable reason => simp [conclude, Outcome.Started]

theorem Command.Call.isUnwaitable_of_timeout {call : Call} (h : call.timeout = none) (longestWait : Option Nat) :
    call.isUnwaitable longestWait = false := by
  cases longestWait with
  | none => rfl
  | some milliseconds => simp [isUnwaitable, h]

/-- An exit that can be waited for is concluded from its status and its output. -/
theorem Command.conclude_of_read {longestWait : Option Nat} {call : Call} {status : Int}
    {stdout stderr : Option Captured} {output errors : Option String} (hwait : call.isUnwaitable longestWait = false)
    (hout : Captured.read stdout = .ok output) (herr : Captured.read stderr = .ok errors) :
    conclude longestWait call (.exited status stdout stderr) =
      if status = 0 then .ok ⟨output, errors⟩ else .error (.failed ⟨call.argv, status, output, errors⟩) := by
  simp only [conclude, concludeExit, hwait, hout, herr]
  rfl

/-- Output that is not UTF-8 is reported as that, whatever the status. -/
theorem Command.conclude_of_undecodable {longestWait : Option Nat} {call : Call} {status : Int}
    {stdout stderr : Option Captured} {reason : String} (hwait : call.isUnwaitable longestWait = false)
    (h : Captured.read stdout = .error reason ∨
      (∃ output, Captured.read stdout = .ok output) ∧ Captured.read stderr = .error reason) :
    conclude longestWait call (.exited status stdout stderr) = .error (.undecodable reason) := by
  rcases h with hout | ⟨⟨output, hout⟩, herr⟩
  · simp only [conclude, concludeExit, hwait, hout]
    rfl
  · simp only [conclude, concludeExit, hwait, hout, herr]
    rfl

theorem Host.start_fst (h : Host) (call : Command.Call) : (h.start call).1 = (h.replies call).outcome := by
  simp only [Host.start]
  split
  next => rfl
  next => rfl

namespace Command

/-- The executable that a host has for the first word of a command. -/
def executable? (host : Host) (word : String) : Option String :=
  if (Path.ofString word).isAbsolute then some word else Table.find? host.executables word

/-- The look-up of an executable starts no child process and gives what the host has. -/
theorem runOn_findExecutable (word : String) (s : State) :
    callsStarted ((findExecutable word).asked s) = [] ∧
      (findExecutable word).runOn s =
        ((executable? s.host word).elim (.error (.notOnPath word)) .ok, s) := by
  unfold findExecutable executable?
  split
  next => exact ⟨rfl, rfl⟩
  next =>
    have hstep : (step (.executable word) : Attempt RunError _).runOn s =
        (.ok (Table.find? s.host.executables word), s) := runOn_step _ s
    rw [runOn_bind_ok hstep, asked_bind_ok hstep]
    cases Table.find? s.host.executables word with
    | none => exact ⟨rfl, rfl⟩
    | some executable => exact ⟨rfl, rfl⟩

/-- A command starts one child process, as it is given but for its executable, and concludes its end. If the
host has no such executable it starts none. -/
theorem runOn_run {call : Call} {word : String} {args : List String} (hargv : call.argv = word :: args)
    (s : State) :
    (executable? s.host word = none ∧ callsStarted ((run call).asked s) = [] ∧
        (run call).runOn s = (.error (.notOnPath word), s)) ∨
      ∃ executable s', executable? s.host word = some executable ∧
        callsStarted ((run call).asked s) = [{ call with argv := executable :: args }] ∧
        (run call).runOn s = (conclude s.host.platform.longestWait { call with argv := executable :: args }
          (s.host.replies { call with argv := executable :: args }).outcome, s') := by
  simp only [run, hargv]
  obtain ⟨hcalls, hfind⟩ := runOn_findExecutable word s
  cases hexecutable : executable? s.host word with
  | none =>
    rw [hexecutable] at hfind
    refine .inl ⟨rfl, ?_, runOn_bind_error hfind⟩
    rw [asked_bind_error hfind, hcalls]
  | some executable =>
    rw [hexecutable] at hfind
    let started : Query := .start { call with argv := executable :: args }
    refine .inr ⟨executable, (started.answer s).2, rfl, ?_, ?_⟩
    · rw [asked_bind_ok hfind, callsStarted_append, hcalls]
      rfl
    · rw [runOn_bind_ok hfind, start, runOn_step_bind, runOn_step_bind, runOn_ofExcept]
      refine Prod.ext ?_ rfl
      rw [← Host.start_fst]
      rfl

end Command

theorem callsStarted_logged (level : Log.Level) (part : String) (message : Text.Codes) (s : State) :
    callsStarted ((Routine.logged level part message).asked s) = [] := rfl

end LintBridge
