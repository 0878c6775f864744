-- SUMMARY: A load gives the rule set that its child process responds, or the error of how that process ends.
import LintBridge.Proofs.Bridge.Boundary
import LintBridge.Proofs.Cache.LookupEnds

/-!
# Loads of configurations

A configuration is loaded by one child process. It is the rule set that the process has responded, with the
file and the directory that were asked for. Every other end of the process is an error of the library: the
process has failed, or what it has written is no valid response. A look-up that meets such an error keeps
nothing.
-/

namespace LintBridge

open Json

/-! ## Ends of the child process -/

/-- What a response says under a key: how a value prints that counts as true. -/
def Bridge.said? (response : Members) (key : String) : Option Text.Codes :=
  if (member response key).isTruthy then some (member response key).plain else none

namespace Command.Outcome

/-- A child process has responded with a rule set. Null, or no result at all, stands for an empty one. -/
def Configures (outcome : Outcome) (depth : Nat) (data : Members) : Prop :=
  outcome.Responds depth (.object data) ∨ outcome.Responds depth .null ∧ data = []

/-- The error of a child process that could not be started or did not complete in time with status zero and with
output in UTF-8, or whose library threw. -/
inductive Fails (depth : Nat) (package : String) (call : Call) : Outcome → BridgeError → Prop
  | refused {reason : String} : Fails depth package call (.refused reason) (.notStarted reason)
  | unusable {reason : String} : Fails depth package call (.unusable reason) (.notStarted reason)
  | undecodableOutput {status : Int} {stdout stderr : Option Captured} {reason : String} :
      Captured.read stdout = .error reason →
      Fails depth package call (.exited status stdout stderr) (.notStarted reason)
  | undecodableErrors {status : Int} {stdout stderr : Option Captured} {output : Option String} {reason : String} :
      Captured.read stdout = .ok output → Captured.read stderr = .error reason →
      Fails depth package call (.exited status stdout stderr) (.notStarted reason)
  | exited {status : Int} {stdout stderr : Option Captured} {output errors : Option String} : status ≠ 0 →
      Captured.read stdout = .ok output → Captured.read stderr = .ok errors →
      Fails depth package call (.exited status stdout stderr) (.exited package status errors)
  | expired {stdout stderr : Option Captured} : Captured.toText stderr ≠ "" →
      Fails depth package call (.expired stdout stderr)
        (.exited package timeoutStatus (some (Captured.toText stderr ++ "\n" ++ timeoutNote call)))
  | silent {stdout stderr : Option Captured} : Captured.toText stderr = "" →
      Fails depth package call (.expired stdout stderr) (.exited package timeoutStatus (some (timeoutNote call)))
  | thrown {stdout stderr : Option Captured} {output errors : Option String} {response : Members} :
      Captured.read stdout = .ok output → Captured.read stderr = .ok errors →
      Json.read depth (output.getD "").toList = .ok (.object response) → ¬(member response "ok").isTruthy →
      Fails depth package call (.exited 0 stdout stderr)
        (.thrown ((Bridge.said? response "error").getD s!"{package} failed") (Bridge.said? response "stack"))

/-- The error of a child process that has completed, but has not written a response with a rule set. -/
inductive Garbles (depth : Nat) (package : String) : Outcome → BridgeError → Prop
  | notJson {stdout stderr : Option Captured} {output errors : Option String} {fault : FaultPlace} :
      Captured.read stdout = .ok output → Captured.read stderr = .ok errors →
      Json.read depth (output.getD "").toList = .error (.malformed fault) →
      Garbles depth package (.exited 0 stdout stderr) (.notJson package errors)
  | notObject {stdout stderr : Option Captured} {output errors : Option String} {v : Value} :
      Captured.read stdout = .ok output → Captured.read stderr = .ok errors →
      Json.read depth (output.getD "").toList = .ok v → (∀ ms, v ≠ .object ms) →
      Garbles depth package (.exited 0 stdout stderr) .notObject
  | notRules {outcome : Outcome} {result : Value} : outcome.Responds depth result → result ≠ .null →
      (∀ ms, result ≠ .object ms) → Garbles depth package outcome (.badConfiguration result.kind)

variable {depth : Nat} {package : String} {call : Call} {outcome : Outcome} {cause : BridgeError}

theorem Fails.isProtocolError (h : Fails depth package call outcome cause) : cause.isProtocolError = false := by
  cases h with
  | _ => rfl

theorem Garbles.isProtocolError (h : Garbles depth package outcome cause) : cause.isProtocolError = true := by
  cases h with
  | _ => rfl

/-- Within the limits of the reader there is no other end. -/
theorem configures_or_fails_or_garbles (package : String) (call : Call) (hlimits : outcome.WithinLimits depth) :
    (∃ data, outcome.Configures depth data) ∨ (∃ cause, Fails depth package call outcome cause) ∨
      ∃ cause, Garbles depth package outcome cause := by
  cases outcome with
  | refused reason => exact .inr (.inl ⟨_, .refused⟩)
  | unusable reason => exact .inr (.inl ⟨_, .unusable⟩)
  | expired stdout stderr =>
    by_cases hsilent : Captured.toText stderr = ""
    · exact .inr (.inl ⟨_, .silent hsilent⟩)
    · exact .inr (.inl ⟨_, .expired hsilent⟩)
  | exited status stdout stderr =>
    cases hout : Captured.read stdout with
    | error reason => exact .inr (.inl ⟨_, .undecodableOutput hout⟩)
    | ok output =>
    cases herr : Captured.read stderr with
    | error reason => exact .inr (.inl ⟨_, .undecodableErrors hout herr⟩)
    | ok errors =>
    by_cases hstatus : status = 0
    case neg => exact .inr (.inl ⟨_, .exited hstatus hout herr⟩)
    subst hstatus
    cases hread : Json.read depth (output.getD "").toList with
    | error fault =>
      cases fault with
      | malformed fault => exact .inr (.inr ⟨_, .notJson hout herr hread⟩)
      | beyond limit => exact absurd hread (hlimits _ _ _ limit rfl hout)
    | ok v =>
      cases v with
      | object response =>
        by_cases hok : (member response "ok").isTruthy
        case neg => exact .inr (.inl ⟨_, .thrown hout herr hread hok⟩)
        have hresponds {result : Value} (h : member response "result" = result) :
            (exited 0 stdout stderr).Responds depth result := ⟨_, _, _, _, _, rfl, hout, herr, hread, hok, h⟩
        cases hresult : member response "result" with
        | null => exact .inl ⟨[], .inr ⟨hresponds hresult, rfl⟩⟩
        | object data => exact .inl ⟨data, .inl (hresponds hresult)⟩
        | _ => exact .inr (.inr ⟨_, .notRules (hresponds hresult) nofun nofun⟩)
      | _ => exact .inr (.inr ⟨_, .notObject hout herr hread nofun⟩)

end Command.Outcome

namespace Bridge

/-! ## Data -/

/-- The rule set that the end of a child process that was to load it comes to. -/
def dataOfEnd (platform : Platform) (package : String) (call : Command.Call) (outcome : Command.Outcome) :
    Except LintError Members :=
  resultOfEnd platform package call outcome >>= fun result => (rulesOf result).mapError .bridge

variable {platform : Platform} {package : String} {call : Command.Call} {outcome : Command.Outcome}
  {cause : BridgeError}

theorem rulesOf_eq_ok_iff {result : Value} {data : Members} :
    rulesOf result = .ok data ↔ result = .object data ∨ result = .null ∧ data = [] := by
  cases result with
  | _ => simp [rulesOf, eq_comm]

theorem rulesOf_of_other {result : Value} (hnull : result ≠ .null) (hobject : ∀ ms, result ≠ .object ms) :
    rulesOf result = .error (.badConfiguration result.kind) := by
  cases result with
  | null => exact absurd rfl hnull
  | object ms => exact absurd rfl (hobject ms)
  | _ => rfl

/-- The end of a child process comes to a rule set exactly when it could be waited for and has responded with
that. -/
theorem dataOfEnd_eq_ok_iff {data : Members} :
    dataOfEnd platform package call outcome = .ok data ↔
      call.isUnwaitable platform.longestWait = false ∧ outcome.Configures platform.jsonDepth data := by
  simp only [dataOfEnd, bind_eq_ok_iff, mapError_eq_ok_iff, resultOfEnd_eq_ok_iff, rulesOf_eq_ok_iff,
    Command.Outcome.Configures]
  constructor
  · rintro ⟨result, ⟨hwait, hresponds⟩, rfl | ⟨rfl, rfl⟩⟩
    · exact ⟨hwait, .inl hresponds⟩
    · exact ⟨hwait, .inr ⟨hresponds, rfl⟩⟩
  · rintro ⟨hwait, hresponds | ⟨hresponds, rfl⟩⟩
    · exact ⟨_, ⟨hwait, hresponds⟩, .inl rfl⟩
    · exact ⟨_, ⟨hwait, hresponds⟩, .inr ⟨rfl, rfl⟩⟩

/-- An end that is no completion is the error of that. -/
theorem dataOfEnd_of_conclude {e : Command.RunError}
    (h : Command.conclude platform.longestWait call outcome = .error e) :
    dataOfEnd platform package call outcome = .error (failureOf package e) := by
  rw [dataOfEnd, resultOfEnd, h]
  rfl

section

variable {stdout stderr : Option Command.Captured} (hwait : call.isUnwaitable platform.longestWait = false)

include hwait

/-- An end whose output holds no result is the error of that. -/
theorem dataOfEnd_of_resultOf {output errors : Option String} {e : LintError}
    (hout : Command.Captured.read stdout = .ok output) (herr : Command.Captured.read stderr = .ok errors)
    (h : resultOf platform.jsonDepth package ⟨output, errors⟩ = .error e) :
    dataOfEnd platform package call (.exited 0 stdout stderr) = .error e := by
  have hend : resultOfEnd platform package call (.exited 0 stdout stderr) = .error e := by
    rw [resultOfEnd, Command.conclude_of_read hwait hout herr]
    exact h
  rw [dataOfEnd, hend]
  rfl

theorem dataOfEnd_of_expired (package : String) :
    dataOfEnd platform package call (.expired stdout stderr) =
      .error (.bridge (.exited package Command.timeoutStatus
        (some (if Command.Captured.toText stderr = "" then Command.timeoutNote call
          else Command.Captured.toText stderr ++ "\n" ++ Command.timeoutNote call)))) := by
  have hend : Command.conclude platform.longestWait call (.expired stdout stderr) =
      .error (.failed (Command.concludeTimeout call stdout stderr)) := by
    rw [Command.conclude, hwait]
    rfl
  simp only [← String.isEmpty_iff]
  exact dataOfEnd_of_conclude hend

end

theorem thrownBy_eq (package : String) (response : Members) :
    thrownBy package response = .thrown ((said? response "error").getD s!"{package} failed")
      (said? response "stack") := by
  simp only [thrownBy, said?]
  cases (member response "error").isTruthy <;> rfl

/-- The end of a call is known: it was not started, or it could be waited for. -/
theorem isUnwaitable_of_started (hwait : ¬(outcome.Started ∧ call.isUnwaitable platform.longestWait = true))
    (hstarted : outcome.Started) : call.isUnwaitable platform.longestWait = false :=
  Bool.eq_false_iff.2 fun hunwaitable => hwait ⟨hstarted, hunwaitable⟩

theorem dataOfEnd_of_fails (hwait : ¬(outcome.Started ∧ call.isUnwaitable platform.longestWait = true))
    (h : outcome.Fails platform.jsonDepth package call cause) :
    dataOfEnd platform package call outcome = .error (.bridge cause) := by
  have hwait := isUnwaitable_of_started hwait
  cases h with
  | refused => rfl
  | unusable => rfl
  | undecodableOutput hout =>
    exact dataOfEnd_of_conclude (Command.conclude_of_undecodable (hwait trivial) (.inl hout))
  | undecodableErrors hout herr =>
    exact dataOfEnd_of_conclude (Command.conclude_of_undecodable (hwait trivial) (.inr ⟨⟨_, hout⟩, herr⟩))
  | exited hstatus hout herr =>
    exact dataOfEnd_of_conclude ((Command.conclude_of_read (hwait trivial) hout herr).trans (if_neg hstatus))
  | expired hsaid => exact (dataOfEnd_of_expired (hwait trivial) package).trans (by rw [if_neg hsaid])
  | silent hsilent => exact (dataOfEnd_of_expired (hwait trivial) package).trans (by rw [if_pos hsilent])
  | thrown hout herr hread hok =>
    exact dataOfEnd_of_resultOf (hwait trivial) hout herr (by simp only [resultOf, hread, if_neg hok, thrownBy_eq])

theorem dataOfEnd_of_garbles (hwait : ¬(outcome.Started ∧ call.isUnwaitable platform.longestWait = true))
    (h : outcome.Garbles platform.jsonDepth package cause) :
    dataOfEnd platform package call outcome = .error (.bridge cause) := by
  have hwait := isUnwaitable_of_started hwait
  cases h with
  | notJson hout herr hread =>
    exact dataOfEnd_of_resultOf (hwait trivial) hout herr (by simp only [resultOf, hread])
  | @notObject _ _ _ _ v hout herr hread hobject =>
    refine dataOfEnd_of_resultOf (hwait trivial) hout herr ?_
    rw [resultOf, hread]
    cases v with
    | object ms => exact absurd rfl (hobject ms)
    | _ => rfl
  | notRules hresponds hnull hobject =>
    have hstarted : outcome.Started := by
      obtain ⟨_, _, _, _, _, rfl, -⟩ := hresponds
      trivial
    rw [dataOfEnd, resultOfEnd_eq_ok_iff.2 ⟨hwait hstarted, hresponds⟩]
    exact congrArg (Except.mapError _) (rulesOf_of_other hnull hobject)

/-- Within the limits of the reader, and of what can be waited for, the errors are those of a failure and of an
invalid response. -/
theorem dataOfEnd_eq_error_iff {e : LintError} (hlimits : outcome.WithinLimits platform.jsonDepth)
    (hwait : ¬(outcome.Started ∧ call.isUnwaitable platform.longestWait = true)) :
    dataOfEnd platform package call outcome = .error e ↔
      ∃ cause, e = .bridge cause ∧
        (outcome.Fails platform.jsonDepth package call cause ∨ outcome.Garbles platform.jsonDepth package cause) := by
  constructor
  · intro h
    rcases Command.Outcome.configures_or_fails_or_garbles package call hlimits with
      ⟨data, hdata⟩ | ⟨cause, hfails⟩ | ⟨cause, hgarbles⟩
    · have hstarted : outcome.Started := by
        rcases hdata with ⟨_, _, _, _, _, rfl, -⟩ | ⟨⟨_, _, _, _, _, rfl, -⟩, -⟩ <;> trivial
      cases h.symm.trans (dataOfEnd_eq_ok_iff.2 ⟨isUnwaitable_of_started hwait hstarted, hdata⟩)
    · cases h.symm.trans (dataOfEnd_of_fails hwait hfails)
      exact ⟨cause, rfl, .inl hfails⟩
    · cases h.symm.trans (dataOfEnd_of_garbles hwait hgarbles)
      exact ⟨cause, rfl, .inr hgarbles⟩
  · rintro ⟨cause, rfl, hfails | hgarbles⟩
    · exact dataOfEnd_of_fails hwait hfails
    · exact dataOfEnd_of_garbles hwait hgarbles

/-! ## Loads -/

/-- The child process that loads a configuration, if a host has the executable for it. -/
def loaderOf (settings : Settings) (handle : Library.Handle) (file : Path) (host : Host) :
    Option Command.Call :=
  childOf settings handle .loadConfiguration (loadDetails file) file.parent host

variable {settings : Settings} {handle : Library.Handle} {file : Path} {σ : State}

/-- A load only turns the result of its exchange into a configuration. -/
theorem loadConfiguration_eq_bind (settings : Settings) (handle : Library.Handle) (file : Path) :
    loadConfiguration settings handle file =
      exchangeWith settings handle .loadConfiguration (loadDetails file) file.parent >>= fun result =>
        .ofExcept (((rulesOf result).mapError .bridge).map (⟨file, file.parent, ·⟩)) := by
  unfold loadConfiguration
  congr 1
  funext result
  cases rulesOf result with
  | error e => rfl
  | ok data => rfl

/-- A load starts one child process, and gives what the end of that comes to. If the executable is not found it
starts none, and fails. -/
theorem runOn_loadConfiguration (settings : Settings) (handle : Library.Handle) (file : Path) (s : State) :
    callsStarted ((loadConfiguration settings handle file).asked s) =
        (loaderOf settings handle file s.host).toList ∧
      ((loadConfiguration settings handle file).runOn s).1 =
        (loaderOf settings handle file s.host).elim (.error (.bridge (executableMissing settings)))
          fun call => (dataOfEnd s.host.platform settings.packageName call
            (s.host.replies call).outcome).map (⟨file, file.parent, ·⟩) := by
  obtain ⟨s', hcalls, hrun⟩ :=
    runOn_exchangeWith settings handle .loadConfiguration (loadDetails file) file.parent s
  rw [loadConfiguration_eq_bind, Attempt.asked_bind_ofExcept, Attempt.runOn_bind_ofExcept hrun]
  refine ⟨hcalls, ?_⟩
  rw [loaderOf]
  cases childOf settings handle .loadConfiguration (loadDetails file) file.parent s.host with
  | none => rfl
  | some call =>
    simp only [Option.elim_some, dataOfEnd]
    cases resultOfEnd s.host.platform settings.packageName call (s.host.replies call).outcome with
    | error e => rfl
    | ok result => rfl

/-- A load does not start a child process that the system cannot wait for so long. -/
def Awaitable (settings : Settings) (handle : Library.Handle) (file : Path) (host : Host) : Prop :=
  ∀ call, loaderOf settings handle file host = some call →
    ¬((host.replies call).outcome.Started ∧ call.isUnwaitable host.platform.longestWait = true)

/-- The error of a load whose child process could not be started or has failed. -/
def FailsToLoad (settings : Settings) (handle : Library.Handle) (file : Path) (host : Host)
    (cause : BridgeError) : Prop :=
  loaderOf settings handle file host = none ∧ cause = executableMissing settings ∨
    ∃ call, loaderOf settings handle file host = some call ∧
      (host.replies call).outcome.Fails host.platform.jsonDepth settings.packageName call cause

/-- The error of a load whose child process has written no valid response. -/
def GarblesLoad (settings : Settings) (handle : Library.Handle) (file : Path) (host : Host)
    (cause : BridgeError) : Prop :=
  ∃ call, loaderOf settings handle file host = some call ∧
    (host.replies call).outcome.Garbles host.platform.jsonDepth settings.packageName cause

theorem FailsToLoad.isProtocolError {host : Host} (h : FailsToLoad settings handle file host cause) :
    cause.isProtocolError = false := by
  rcases h with ⟨-, rfl⟩ | ⟨call, -, hfails⟩
  · rfl
  · exact hfails.isProtocolError

theorem GarblesLoad.isProtocolError {host : Host} (h : GarblesLoad settings handle file host cause) :
    cause.isProtocolError = true := by
  obtain ⟨call, -, hgarbles⟩ := h
  exact hgarbles.isProtocolError

/-- A load whose child process fails is the error of that. -/
theorem fst_runOn_loadConfiguration_of_fails (hwait : Awaitable settings handle file σ.host)
    (h : FailsToLoad settings handle file σ.host cause) :
    ((loadConfiguration settings handle file).runOn σ).1 = .error (.bridge cause) := by
  rw [(runOn_loadConfiguration settings handle file σ).2]
  rcases h with ⟨hloader, rfl⟩ | ⟨call, hloader, hfails⟩
  · rw [hloader]
    rfl
  · rw [hloader, Option.elim_some, dataOfEnd_of_fails (hwait call hloader) hfails]
    rfl

theorem fst_runOn_loadConfiguration_eq_ok_iff {configuration : Configuration}
    (hwait : Awaitable settings handle file σ.host) :
    ((loadConfiguration settings handle file).runOn σ).1 = .ok configuration ↔
      ∃ call data, loaderOf settings handle file σ.host = some call ∧
        (σ.host.replies call).outcome.Configures σ.host.platform.jsonDepth data ∧
        configuration = ⟨file, file.parent, data⟩ := by
  rw [(runOn_loadConfiguration settings handle file σ).2]
  cases hloader : loaderOf settings handle file σ.host with
  | none => simp
  | some call =>
    have hdata (data : Members) :
        dataOfEnd σ.host.platform settings.packageName call (σ.host.replies call).outcome = .ok data ↔
          (σ.host.replies call).outcome.Configures σ.host.platform.jsonDepth data := by
      rw [dataOfEnd_eq_ok_iff, and_iff_right_of_imp]
      rintro (⟨_, _, _, _, _, hend, -⟩ | ⟨⟨_, _, _, _, _, hend, -⟩, -⟩) <;>
        exact isUnwaitable_of_started (hwait call hloader) (hend ▸ trivial)
    simp only [Option.elim_some, Option.some.injEq, exists_and_left, exists_eq_left', ← hdata]
    cases dataOfEnd σ.host.platform settings.packageName call (σ.host.replies call).outcome with
    | error e => simp [Except.map]
    | ok data => simp [Except.map, eq_comm]

theorem fst_runOn_loadConfiguration_eq_error_iff {e : LintError}
    (hwait : Awaitable settings handle file σ.host)
    (hlimits : ∀ call, loaderOf settings handle file σ.host = some call →
      (σ.host.replies call).outcome.WithinLimits σ.host.platform.jsonDepth) :
    ((loadConfiguration settings handle file).runOn σ).1 = .error e ↔
      ∃ cause, e = .bridge cause ∧
        (FailsToLoad settings handle file σ.host cause ∨ GarblesLoad settings handle file σ.host cause) := by
  rw [(runOn_loadConfiguration settings handle file σ).2]
  unfold FailsToLoad GarblesLoad
  cases hloader : loaderOf settings handle file σ.host with
  | none => simp [eq_comm]
  | some call =>
    have herror : dataOfEnd σ.host.platform settings.packageName call
        (σ.host.replies call).outcome = .error e ↔ _ :=
      dataOfEnd_eq_error_iff (hlimits call hloader) (hwait call hloader)
    simp only [Option.elim_some, reduceCtorEq, false_and, false_or, Option.some.injEq, exists_eq_left',
      ← herror]
    cases dataOfEnd σ.host.platform settings.packageName call (σ.host.replies call).outcome with
    | error e' => simp [Except.map]
    | ok data => simp [Except.map]

/-- A look-up that finds no configuration in the cache, and whose load ends with an error, ends with that
error and keeps nothing. -/
theorem runOn_configurationFor_of_load_error {document : Path} {adapter : Library.Adapter} {s : State}
    {e : LintError} (hmissing : Table.find? s.cache.configurations document.parent = none)
    (hfind : (Configuration.find settings document).runOn s = (.ok (some file), σ))
    (hload : ((loadConfiguration settings adapter.handle file).runOn σ).1 = .error e) :
    ((configurationFor settings document adapter).runOn s).1 = .error e ∧
      ((configurationFor settings document adapter).runOn s).2.cache = s.cache := by
  have hresult : ((configurationFor settings document adapter).runOn s).1 = .error e := by
    have hstep : (Attempt.step (.configurationOf document.parent) : Attempt LintError _).runOn s =
        (.ok none, s) := by
      rw [Attempt.runOn_step]
      simp [Query.answer, Cache.configurationOf, hmissing]
    have hresolve : ((Configuration.resolve settings adapter.handle document).runOn s).1 = .error e := by
      rw [Configuration.resolve, Attempt.runOn_bind_ok hfind]
      exact hload
    rw [configurationFor, Attempt.runOn_bind_ok hstep]
    exact congrArg Prod.fst (Attempt.runOn_bind_error (Prod.ext hresolve rfl))
  refine ⟨hresult, ?_⟩
  have hend := configurationFor_ends settings document adapter s
  rw [hresult] at hend
  generalize ((configurationFor settings document adapter).runOn s).2.cache = c at hend
  cases hend with
  | raised => rfl

/-- A load starts its child process and no other. If the system can wait for that, the load gives a configuration
exactly when it has responded with a rule set, and this is the configuration of the file asked for with that rule
set. Every other end is an error of the library: that of a failure, or that of an invalid response. A look-up that
meets one keeps nothing. -/
theorem loadConfiguration_ends_with_its_child (hwait : Awaitable settings handle file σ.host)
    (hlimits : ∀ call, loaderOf settings handle file σ.host = some call →
      (σ.host.replies call).outcome.WithinLimits σ.host.platform.jsonDepth) :
    callsStarted ((loadConfiguration settings handle file).asked σ) =
        (loaderOf settings handle file σ.host).toList ∧
      (∀ configuration, ((loadConfiguration settings handle file).runOn σ).1 = .ok configuration ↔
        ∃ call data, loaderOf settings handle file σ.host = some call ∧
          (σ.host.replies call).outcome.Configures σ.host.platform.jsonDepth data ∧
          configuration = ⟨file, file.parent, data⟩) ∧
      (∀ e, ((loadConfiguration settings handle file).runOn σ).1 = .error e ↔
        ∃ cause, e = .bridge cause ∧
          (FailsToLoad settings handle file σ.host cause ∧ cause.isProtocolError = false ∨
            GarblesLoad settings handle file σ.host cause ∧ cause.isProtocolError = true)) ∧
      ∀ document (adapter : Library.Adapter) s e, adapter.handle = handle →
        Table.find? s.cache.configurations document.parent = none →
        (Configuration.find settings document).runOn s = (.ok (some file), σ) →
        ((loadConfiguration settings handle file).runOn σ).1 = .error e →
        ((configurationFor settings document adapter).runOn s).1 = .error e ∧
          ((configurationFor settings document adapter).runOn s).2.cache = s.cache := by
  refine ⟨(runOn_loadConfiguration settings handle file σ).1,
    fun _ => fst_runOn_loadConfiguration_eq_ok_iff hwait, fun e => ?_, ?_⟩
  · simp only [fst_runOn_loadConfiguration_eq_error_iff hwait hlimits]
    refine exists_congr fun cause => and_congr_right fun _ => or_congr ?_ ?_
    · exact (and_iff_left_of_imp FailsToLoad.isProtocolError).symm
    · exact (and_iff_left_of_imp GarblesLoad.isProtocolError).symm
  · rintro document adapter s e rfl hmissing hfind hload
    exact runOn_configurationFor_of_load_error hmissing hfind hload

/-- A host with a configuration at the root, where all child processes end alike. -/
def hostEnding (outcome : Command.Outcome) : Host where
  files := ⟨[(["tslint.json"], .file (some []) 1)], []⟩
  environment := []
  executables := []
  replies := fun _ => { outcome }

/-- Where a system can wait for any time, it can wait for every load. -/
theorem awaitable_of_platform {host : Host} (h : host.platform.longestWait = none) :
    Awaitable settings handle file host := by
  rintro call - ⟨-, hunwaitable⟩
  rw [h] at hunwaitable
  cases hunwaitable

/-- Settings with the place of the executable. -/
def absoluteNode : Settings := { nodePath := "/bin/node" }

theorem loaderOf_absoluteNode (handle : Library.Handle) (file : Path) (host : Host) :
    loaderOf absoluteNode handle file host =
      some { callOf absoluteNode handle .loadConfiguration (loadDetails file) file.parent with
        argv := ["/bin/node", "-e", program handle.generation] } := by
  have habsolute : (Path.ofString absoluteNode.nodePath).isAbsolute := by decide
  rw [loaderOf, childOf, Command.executable?, if_pos habsolute]
  rfl

theorem loadConfiguration_ends_with_its_child_late :
    let handle : Library.Handle := ⟨⟨.root, ["tslint"]⟩, ⟨.root, ["tslint"]⟩, none, .project, .modern⟩
    let file : Path := ⟨.root, ["tslint.json"]⟩
    let document : Path := ⟨.root, ["a.ts"]⟩
    let responded : State := { host := hostEnding (.exited 0 (some "\x7b\"ok\":1\x7d") none) }
    let late : State := { host := hostEnding (.expired none (some (.bytes [0x62, 0x61, 0x64]))) }
    let e : LintError := .bridge (.exited "tslint" 124 (some "bad\n/bin/node timed out after Nones"))
    ((loadConfiguration absoluteNode handle file).runOn responded).1 = .ok ⟨file, ⟨.root, []⟩, []⟩ ∧
      ((configurationFor absoluteNode document ⟨0, handle⟩).runOn late).1 = .error e ∧
      ((configurationFor absoluteNode document ⟨0, handle⟩).runOn late).2.cache = late.cache := by
  intro handle file document responded late e
  constructor
  · have hread : Json.read 989 "\x7b\"ok\":1\x7d".toList = .ok (.object [("ok", .int 1)]) := by decide +kernel
    have hlimits : ∀ call, loaderOf absoluteNode handle file responded.host = some call →
        (responded.host.replies call).outcome.WithinLimits responded.host.platform.jsonDepth := by
      rintro call - stdout stderr output limit ⟨⟩ ⟨⟩ hbeyond
      cases hread.symm.trans hbeyond
    obtain ⟨-, hok, -⟩ := loadConfiguration_ends_with_its_child (awaitable_of_platform rfl) hlimits
    have hresponds : (Command.Outcome.exited 0 (some "\x7b\"ok\":1\x7d") none).Responds 989 .null :=
      ⟨_, _, _, _, _, rfl, rfl, rfl, hread, by decide +kernel, by decide +kernel⟩
    exact (hok _).2 ⟨_, [], loaderOf_absoluteNode .., .inr ⟨hresponds, rfl⟩, rfl⟩
  · let σ : State := ((Configuration.find absoluteNode document).runOn late).2
    have hfind : (Configuration.find absoluteNode document).runOn late = (.ok (some file), σ) := by
      have hfound : ((Configuration.find absoluteNode document).runOn late).1.toOption = some (some file) := by
        decide +kernel
      refine Prod.ext ?_ rfl
      cases hresult : ((Configuration.find absoluteNode document).runOn late).1 with
      | error e =>
        rw [hresult] at hfound
        cases hfound
      | ok found =>
        rw [hresult] at hfound
        cases hfound
        rfl
    have hends (call : Command.Call) :
        (σ.host.replies call).outcome = .expired none (some (.bytes [0x62, 0x61, 0x64])) :=
      congrArg (fun replies => (replies call).outcome) (Routine.replies_run _ late)
    have hwait : Awaitable absoluteNode handle file σ.host :=
      awaitable_of_platform (congrArg Platform.longestWait (Routine.platform_run _ late))
    have hlimits : ∀ call, loaderOf absoluteNode handle file σ.host = some call →
        (σ.host.replies call).outcome.WithinLimits σ.host.platform.jsonDepth := by
      rintro call - stdout stderr output limit hend
      cases (hends call).symm.trans hend
    have hsaid : Command.Captured.toText (some (.bytes [0x62, 0x61, 0x64])) = "bad" := by decide
    have hfails {depth : Nat} {call : Command.Call} (hargv : call.argv.head? = some "/bin/node")
        (htime : call.timeout = none) :
        Command.Outcome.Fails depth "tslint" call (σ.host.replies call).outcome
          (.exited "tslint" 124 (some "bad\n/bin/node timed out after Nones")) := by
      have hnote : Command.timeoutNote call = "/bin/node timed out after Nones" := by
        rw [Command.timeoutNote, hargv, htime]
        rfl
      have hexpired : Command.Outcome.Fails depth "tslint" call (.expired none _) _ := .expired (by rw [hsaid]; decide)
      rw [hsaid, hnote, ← hends call] at hexpired
      exact hexpired
    obtain ⟨-, -, herror, hkept⟩ := loadConfiguration_ends_with_its_child hwait hlimits
    have hload := (herror e).2 ⟨_, rfl, .inl ⟨.inr ⟨_, loaderOf_absoluteNode .., hfails rfl rfl⟩, rfl⟩⟩
    exact hkept document ⟨0, handle⟩ late e rfl rfl hfind hload

/-! ## What a response and its output can hide -/

/-- A response of a library that threw an error without words. -/
def wordless : String := "\x7b\"ok\":false,\"error\":\"\",\"stack\":\"\"\x7d"

theorem read_wordless : Json.read 989 wordless.toList =
    .ok (.object [("ok", .bool false), ("error", .text ""), ("stack", .text "")]) := by
  decide +kernel

/-- Not every error that is thrown is given as it is responded: one without words is given as a failure of the
package, and an empty stack as none. Nor does every response with a rule set come to a configuration: what else the
process has written must be UTF-8 as well. -/
theorem loadConfiguration_hides_response :
    let handle : Library.Handle := ⟨⟨.root, ["tslint"]⟩, ⟨.root, ["tslint"]⟩, none, .project, .modern⟩
    let file : Path := ⟨.root, ["tslint.json"]⟩
    let threw : State := { host := hostEnding (.exited 0 (some wordless) none) }
    let mixed : State := { host := hostEnding (.exited 0 (some "\x7b\"ok\":1\x7d") (some (.bytes [0xff]))) }
    (Json.read 989 wordless.toList =
        .ok (.object [("ok", .bool false), ("error", .text ""), ("stack", .text "")]) ∧
      ((loadConfiguration absoluteNode handle file).runOn threw).1 =
        .error (.bridge (.thrown "tslint failed" none))) ∧
      Json.read 989 "\x7b\"ok\":1\x7d".toList = .ok (.object [("ok", .int 1)]) ∧
        ∀ configuration, ((loadConfiguration absoluteNode handle file).runOn mixed).1 ≠ .ok configuration := by
  intro handle file threw mixed
  have herror {outcome : Command.Outcome} {cause : BridgeError}
      (h : ∀ call, Command.Outcome.Fails 989 "tslint" call outcome cause) :
      ((loadConfiguration absoluteNode handle file).runOn { host := hostEnding outcome }).1 = .error (.bridge cause) :=
    fst_runOn_loadConfiguration_of_fails (awaitable_of_platform rfl)
      (.inr ⟨_, loaderOf_absoluteNode handle file _, h _⟩)
  refine ⟨⟨read_wordless, ?_⟩, by decide +kernel, fun configuration => ?_⟩
  · have hsaid : said? [("ok", .bool false), ("error", .text ""), ("stack", .text "")] "error" = none ∧
        said? [("ok", .bool false), ("error", .text ""), ("stack", .text "")] "stack" = none := by decide
    have hthrown (call : Command.Call) : Command.Outcome.Fails 989 "tslint" call (.exited 0 (some wordless) none) _ :=
      .thrown rfl rfl read_wordless (by decide)
    rw [hsaid.1, hsaid.2] at hthrown
    exact herror hthrown
  · have hundecodable (call : Command.Call) :
        Command.Outcome.Fails 989 "tslint" call (.exited 0 (some "\x7b\"ok\":1\x7d") (some (.bytes [0xff]))) _ :=
      .undecodableErrors rfl rfl
    rw [herror hundecodable]
    intro h
    cases h

end Bridge

end LintBridge
