-- SUMMARY: What package managers say of their global directories, and which child processes are started to ask them.
import LintBridge.Proofs.Cache.Coherent
import LintBridge.Proofs.FileTree.Marked
import LintBridge.Proofs.Routine.Started
import LintBridge.Proofs.Text.Trim

/-!
# Inquiries

The answer of a package manager is the last line of its output that is not blank. A manager that is not
found, does not end well, writes something that is not UTF-8, or prints nothing else gives no answer. The
global directory of npm follows from one answer or, if that is not given, from another; that of yarn follows
from one.
-/

namespace LintBridge

/-! ## Answers -/

/-- A line of nothing but blanks. -/
def Text.IsBlankLine (line : List Char) : Prop := ∀ c ∈ line, isBlank c

/-- The last line of an output that is not blank, without blanks around it. -/
def Text.IsLastLine (output line : String) : Prop :=
  ∃ earlier last later, outputLines output.toList = earlier ++ last :: later ∧ ¬IsBlankLine last ∧
    (∀ other ∈ later, IsBlankLine other) ∧ line = String.ofList (trim isBlank last)

/-- A child process has exited with status zero, all that it has written is UTF-8, and a line is the last of its
output. -/
def Command.Outcome.Says (outcome : Outcome) (line : String) : Prop :=
  ∃ stdout stderr output errors, outcome = .exited 0 stdout stderr ∧ Captured.read stdout = .ok output ∧
    Captured.read stderr = .ok errors ∧ Text.IsLastLine (output.getD "") line

namespace Library

theorem lastLine_eq_some_iff {output line : String} :
    lastLine? output = some line ↔ Text.IsLastLine output line := by
  have hkept (l : List Char) :
      ((fun s : List Char => !s.isEmpty) ∘ Text.trim Text.isBlank) l ↔ ¬Text.IsBlankLine l := by
    rw [Text.IsBlankLine, ← Text.trim_eq_nil_iff]
    simp
  simp only [lastLine?, List.getLast?_filter, ← List.map_reverse, List.find?_map, Option.map_map,
    Option.map_eq_some_iff, List.find?_eq_some_iff_append, hkept]
  constructor
  · rintro ⟨last, ⟨hlast, later, earlier, hlines, hlater⟩, rfl⟩
    refine ⟨earlier.reverse, last, later.reverse, by simpa using congrArg List.reverse hlines, hlast,
      fun other hother => ?_, rfl⟩
    simpa [Text.trim_eq_nil_iff, Text.IsBlankLine] using hlater other (List.mem_reverse.1 hother)
  · rintro ⟨earlier, last, later, hlines, hlast, hlater, rfl⟩
    refine ⟨last, ⟨hlast, later.reverse, earlier.reverse, by simp [hlines], fun other hother => ?_⟩, rfl⟩
    simpa [Text.trim_eq_nil_iff, Text.IsBlankLine] using hlater other (List.mem_reverse.1 hother)

/-! ## Inquiries -/

/-- What the package managers are asked. -/
inductive Inquiry where
  | npmRoot | npmPrefix | yarnDirectory
  deriving DecidableEq, Repr

namespace Inquiry

def manager : Inquiry → String
  | npmRoot | npmPrefix => "npm"
  | yarnDirectory => "yarn"

def args : Inquiry → List String
  | npmRoot => ["root", "-g"]
  | npmPrefix => ["config", "get", "prefix"]
  | yarnDirectory => ["global", "dir"]

/-- The source whose global directory an inquiry is about. -/
def source : Inquiry → Source
  | npmRoot | npmPrefix => .npm
  | yarnDirectory => .yarn

theorem source_ne (i : Inquiry) : i.source ≠ .project := by
  cases i <;> simp [source]

/-- The child process of an inquiry, if a host has the package manager. -/
def call? (i : Inquiry) (h : Host) : Option Command.Call :=
  (Command.executable? h i.manager).map fun executable =>
    { argv := executable :: i.args, env := some (withQuietDefaults h.environment) }

/-- The answer to an inquiry on a host. -/
def Gives (i : Inquiry) (h : Host) (line : String) : Prop :=
  ∃ call, i.call? h = some call ∧ (h.replies call).outcome.Says line

/-- A child process is one of an inquiry, whatever executable it is. -/
def makes (i : Inquiry) (call : Command.Call) : Bool := call.argv.drop 1 == i.args

variable {i : Inquiry} {h h' : Host}

theorem makes_unique {j : Inquiry} {call : Command.Call} (hi : i.makes call) (hj : j.makes call) : i = j := by
  have hargs : i.args = j.args := (beq_iff_eq.1 hi).symm.trans (beq_iff_eq.1 hj)
  cases i <;> cases j <;> first | rfl | simp [args] at hargs

/-- The child process of an inquiry is one of no other. -/
theorem makes_iff {j : Inquiry} {call : Command.Call} (hcall : j.call? h = some call) :
    i.makes call ↔ i = j := by
  obtain ⟨executable, -, rfl⟩ := Option.map_eq_some_iff.1 hcall
  have hj : j.makes { argv := executable :: j.args, env := some (withQuietDefaults h.environment) } := by
    simp [makes]
  exact ⟨fun hi => makes_unique hi hj, fun hij => hij ▸ hj⟩

theorem countP_call (j : Inquiry) (h : Host) :
    (j.call? h).toList.countP i.makes ≤ 1 ∧ (0 < (j.call? h).toList.countP i.makes → i = j) := by
  cases hcall : j.call? h with
  | none => simp
  | some call =>
    rw [Option.toList_some]
    refine ⟨List.countP_le_length, fun hcount => ?_⟩
    obtain ⟨call', hcall', hmakes⟩ := List.countP_pos_iff.1 hcount
    obtain rfl := List.mem_singleton.1 hcall'
    exact (makes_iff hcall).1 hmakes

theorem call_of_marked (hm : h.Marked h') : i.call? h = i.call? h' := by
  simp only [call?, Command.executable?, hm.executables, hm.environment]

theorem gives_of_marked (hm : h.Marked h') {line : String} : i.Gives h line ↔ i.Gives h' line := by
  simp only [Gives, call_of_marked hm, hm.replies]

end Inquiry

/-- What a child process says is the last line of an output that is taken from its end. -/
theorem says_iff {longestWait : Option Nat} {call : Command.Call} {outcome : Command.Outcome} {line : String}
    (hwait : call.isUnwaitable longestWait = false) :
    outcome.Says line ↔
      ∃ completed, Command.conclude longestWait call outcome = .ok completed ∧
        lastLine? (completed.stdout.getD "") = some line := by
  simp only [Command.conclude_eq_ok_iff, hwait, true_and, lastLine_eq_some_iff]
  constructor
  · rintro ⟨stdout, stderr, output, errors, hend, hout, herr, hline⟩
    exact ⟨⟨output, errors⟩, ⟨stdout, stderr, hend, hout, herr⟩, hline⟩
  · rintro ⟨completed, ⟨stdout, stderr, hend, hout, herr⟩, hline⟩
    exact ⟨stdout, stderr, _, _, hend, hout, herr, hline⟩

/-- A search marks files at most. -/
theorem marked_search {α : Type} {r : Routine α} (h : r.Asks Query.OfSearch) (s : State) :
    s.host.Marked (r.run s).2.host := by
  refine Routine.Asks.marked (h.mono fun q hq => ?_) s
  cases q with
  | write => exact hq.elim
  | _ => trivial

/-- An inquiry starts its child process, and comes to the answer. No time is set for it, so the system can wait. -/
theorem runOn_ask (i : Inquiry) (s : State) :
    ∃ answer s', (ask i.manager i.args).runOn s = (.ok answer, s') ∧ s.host.Marked s'.host ∧
      (∀ line, answer = some line ↔ i.Gives s.host line) ∧
      callsStarted ((ask i.manager i.args).asked s) = (i.call? s.host).toList := by
  suffices ∃ answer s', (ask i.manager i.args).runOn s = (.ok answer, s') ∧
      (∀ line, answer = some line ↔ i.Gives s.host line) ∧
      callsStarted ((ask i.manager i.args).asked s) = (i.call? s.host).toList by
    obtain ⟨answer, s', hrun, hrest⟩ := this
    exact ⟨answer, s', hrun, congrArg (·.2.host) hrun ▸ marked_search (asks_ask _ _).ofSearch s, hrest⟩
  let call : Command.Call :=
    { argv := i.manager :: i.args, env := some (withQuietDefaults s.host.environment) }
  have henvironment : (Attempt.step .environment : Attempt LintError _).runOn s = (.ok s.host.environment, s) :=
    Attempt.runOn_step _ s
  rw [ask, Attempt.runOn_bind_ok henvironment, Attempt.asked_bind_ok henvironment, callsStarted_append]
  have hattempt {result : Except Command.RunError Command.Completed} {s' : State}
      (hrun : (Command.run call).runOn s = (result, s')) :
      ((Command.run call).run.attempt : Attempt LintError _).runOn s = (.ok result, s') := by
    have hrun : (Command.run call).run.run s = (result, s') := hrun
    rw [Attempt.runOn_attempt, hrun]
  rcases Command.runOn_run (rfl : call.argv = i.manager :: i.args) s with
    ⟨hnone, hcalls, hrun⟩ | ⟨executable, s', hsome, hcalls, hrun⟩
  · have hcall : i.call? s.host = none := by rw [Inquiry.call?, hnone, Option.map_none]
    rw [Attempt.runOn_bind_ok (hattempt hrun), Attempt.asked_bind_ok (hattempt hrun), callsStarted_append,
      Attempt.asked_attempt, hcall]
    refine ⟨none, s.log _, rfl, fun line => ?_, congrArg ([] ++ · ++ []) hcalls⟩
    simp [Inquiry.Gives, hcall]
  · let started := { call with argv := executable :: i.args }
    have hcall : i.call? s.host = some started := by rw [Inquiry.call?, hsome, Option.map_some]
    have hwait : started.isUnwaitable s.host.platform.longestWait = false :=
      Command.Call.isUnwaitable_of_timeout rfl _
    rw [Attempt.runOn_bind_ok (hattempt hrun), Attempt.asked_bind_ok (hattempt hrun), callsStarted_append,
      Attempt.asked_attempt, hcall]
    simp only [Inquiry.Gives, hcall, Option.some.injEq, exists_eq_left', says_iff hwait]
    cases hconclude : Command.conclude s.host.platform.longestWait started (s.host.replies started).outcome with
    | ok completed => exact ⟨_, s', rfl, fun line => by simp, congrArg (· ++ []) hcalls⟩
    | error e =>
      cases e with
      | unwaitable reason => cases hwait.symm.trans (Command.conclude_eq_unwaitable_iff.1 hconclude).2.1
      | _ => exact ⟨none, s'.log _, rfl, fun line => by simp, congrArg (· ++ []) hcalls⟩

/-- Wherever npm is asked for its prefix, it has just been asked for its root, and has not answered. -/
def PrefixAfterRoot (h : Host) (calls : List Command.Call) : Prop :=
  ∀ earlier call later, calls = earlier ++ call :: later → Inquiry.npmPrefix.makes call →
    ∃ earlier' root, earlier = earlier' ++ [root] ∧ Inquiry.npmRoot.makes root ∧
      ∀ line, ¬(h.replies root).outcome.Says line

/-! ## Global directories -/

/-- The global directory of a source, as its package manager names it on a host. -/
inductive GlobalRoot (h : Host) : Source → Path → Prop
  | npmRoot {line : String} : Inquiry.npmRoot.Gives h line → GlobalRoot h .npm (.ofString line)
  | npmPrefix {line : String} : (∀ answer, ¬Inquiry.npmRoot.Gives h answer) →
      Inquiry.npmPrefix.Gives h line →
      GlobalRoot h .npm (((Path.ofString line).child "lib").child modulesName)
  | yarnDirectory {line : String} : Inquiry.yarnDirectory.Gives h line →
      GlobalRoot h .yarn ((Path.ofString line).child modulesName)

/-- The child processes that are started to ask for the global directory of a source. -/
inductive Inquired (h : Host) : Source → List Command.Call → Prop
  | project : Inquired h .project []
  | npmRoot {line : String} : Inquiry.npmRoot.Gives h line →
      Inquired h .npm (Inquiry.npmRoot.call? h).toList
  | npmPrefix : (∀ answer, ¬Inquiry.npmRoot.Gives h answer) →
      Inquired h .npm ((Inquiry.npmRoot.call? h).toList ++ (Inquiry.npmPrefix.call? h).toList)
  | yarnDirectory : Inquired h .yarn (Inquiry.yarnDirectory.call? h).toList

variable {h h' : Host} {source : Source}

theorem globalRoot_of_marked (hm : h.Marked h') {root : Path} (hroot : GlobalRoot h source root) :
    GlobalRoot h' source root := by
  have hgives {i : Inquiry} {line : String} : i.Gives h line ↔ i.Gives h' line := Inquiry.gives_of_marked hm
  cases hroot with
  | npmRoot hline => exact .npmRoot (hgives.1 hline)
  | npmPrefix hnone hline => exact .npmPrefix (fun answer => mt hgives.2 (hnone answer)) (hgives.1 hline)
  | yarnDirectory hline => exact .yarnDirectory (hgives.1 hline)

/-- Each inquiry is made once at most, and only about its source. -/
theorem countP_inquired {calls : List Command.Call} (hcalls : Inquired h source calls) (i : Inquiry) :
    calls.countP i.makes ≤ 1 ∧ (0 < calls.countP i.makes → i.source = source) := by
  have hone (j : Inquiry) := Inquiry.countP_call (i := i) j h
  cases hcalls with
  | project => simp
  | npmRoot => exact ⟨(hone .npmRoot).1, fun hi => (hone .npmRoot).2 hi ▸ rfl⟩
  | yarnDirectory => exact ⟨(hone .yarnDirectory).1, fun hi => (hone .yarnDirectory).2 hi ▸ rfl⟩
  | npmPrefix =>
    obtain ⟨hroot, hisRoot⟩ := hone .npmRoot
    obtain ⟨hlib, hisPrefix⟩ := hone .npmPrefix
    rw [List.countP_append]
    cases i <;> simp only [reduceCtorEq, imp_false, Nat.not_lt, Nat.le_zero] at hisRoot hisPrefix <;>
      simp [Inquiry.source, *]

/-- Without npm no child process is started for it. With npm the first is for its root, and a second one for
its prefix, if the first does not answer. -/
theorem Inquired.npm_cases {calls : List Command.Call} (hcalls : Inquired h .npm calls) :
    calls = [] ∨ ∃ root, Inquiry.npmRoot.makes root ∧
      (calls = [root] ∨ ∃ call, calls = [root, call] ∧ ∀ line, ¬(h.replies root).outcome.Says line) := by
  cases hcalls with
  | npmRoot hline =>
    obtain ⟨root, hroot, -⟩ := hline
    rw [hroot]
    exact .inr ⟨root, (Inquiry.makes_iff hroot).2 rfl, .inl rfl⟩
  | npmPrefix hnone =>
    cases hnpm : Command.executable? h "npm" with
    | none =>
      have hmissing (i : Inquiry) (hi : i.manager = "npm") : i.call? h = none := by
        rw [Inquiry.call?, hi, hnpm, Option.map_none]
      rw [hmissing .npmRoot rfl, hmissing .npmPrefix rfl]
      exact .inl rfl
    | some executable =>
      have hcall (i : Inquiry) (hi : i.manager = "npm") : i.call? h =
          some { argv := executable :: i.args, env := some (withQuietDefaults h.environment) } := by
        rw [Inquiry.call?, hi, hnpm, Option.map_some]
      have hroot := hcall .npmRoot rfl
      rw [hroot, hcall .npmPrefix rfl]
      exact .inr ⟨_, (Inquiry.makes_iff hroot).2 rfl, .inr ⟨_, rfl, fun line hsays =>
        hnone line ⟨_, hroot, hsays⟩⟩⟩

theorem prefixAfterRoot_inquired {calls rest : List Command.Call} (hcalls : Inquired h .npm calls)
    (hrest : ∀ call ∈ rest, ¬Inquiry.npmPrefix.makes call) : PrefixAfterRoot h (calls ++ rest) := by
  intro earlier call later hsplit hmakes
  have hnot : call ∉ rest := fun hcall => hrest call hcall hmakes
  rcases hcalls.npm_cases with rfl | ⟨root, hroot, rfl | ⟨second, rfl, hsays⟩⟩
  · exact absurd (by simp [show rest = _ from hsplit]) hnot
  · cases earlier with
    | nil =>
      obtain ⟨rfl, -⟩ := List.cons.inj hsplit
      cases Inquiry.makes_unique hroot hmakes
    | cons first earlier => exact absurd (by simp [show rest = _ from (List.cons.inj hsplit).2]) hnot
  · cases earlier with
    | nil =>
      obtain ⟨rfl, -⟩ := List.cons.inj hsplit
      cases Inquiry.makes_unique hroot hmakes
    | cons first earlier =>
      obtain ⟨rfl, hafter⟩ := List.cons.inj hsplit
      cases earlier with
      | nil => exact ⟨[], root, rfl, hroot, hsays⟩
      | cons first earlier => exact absurd (by simp [show rest = _ from (List.cons.inj hafter).2]) hnot

theorem inquired_of_marked (hm : h.Marked h') {calls : List Command.Call} (hcalls : Inquired h source calls) :
    Inquired h' source calls := by
  have hgives {i : Inquiry} {line : String} : i.Gives h line ↔ i.Gives h' line := Inquiry.gives_of_marked hm
  cases hcalls with
  | project => exact .project
  | npmRoot hline =>
    rw [Inquiry.call_of_marked hm]
    exact .npmRoot (hgives.1 hline)
  | npmPrefix hnone =>
    rw [Inquiry.call_of_marked hm, Inquiry.call_of_marked hm]
    exact .npmPrefix fun answer => mt hgives.2 (hnone answer)
  | yarnDirectory =>
    rw [Inquiry.call_of_marked hm]
    exact .yarnDirectory

/-- The question for npm comes to its global directory. -/
theorem runOn_askNpm (s : State) :
    ∃ found, (askNpm.runOn s).1 = .ok found ∧ (∀ root, found = some root ↔ GlobalRoot s.host .npm root) ∧
      Inquired s.host .npm (callsStarted (askNpm.asked s)) := by
  obtain ⟨answer, s', hrun, hmarked, hgives, hcalls⟩ := runOn_ask .npmRoot s
  have hrun : (ask "npm" ["root", "-g"]).runOn s = _ := hrun
  have hcalls : callsStarted ((ask "npm" ["root", "-g"]).asked s) = _ := hcalls
  rw [askNpm, Attempt.runOn_bind_ok hrun, Attempt.asked_bind_ok hrun, callsStarted_append, hcalls]
  cases answer with
  | some line =>
    have hline := (hgives line).1 rfl
    refine ⟨some (.ofString line), rfl, fun root => ⟨?_, fun h => ?_⟩, ?_⟩
    · rintro ⟨⟩
      exact .npmRoot hline
    · cases h with
      | npmRoot hline => cases (hgives _).2 hline; rfl
      | npmPrefix hnone => exact absurd hline (hnone line)
    · simpa [callsStarted] using Inquired.npmRoot hline
  | none =>
    have hnone (answer : String) : ¬Inquiry.npmRoot.Gives s.host answer := by simp [← hgives]
    obtain ⟨base, s'', hrun', -, hgives', hcalls'⟩ := runOn_ask .npmPrefix s'
    have hrun' : (ask "npm" ["config", "get", "prefix"]).runOn s' = _ := hrun'
    have hcalls' : callsStarted ((ask "npm" ["config", "get", "prefix"]).asked s') = _ := hcalls'
    simp only [← Inquiry.gives_of_marked hmarked, ← Inquiry.call_of_marked hmarked] at hgives' hcalls'
    simp only [Attempt.runOn_bind_ok hrun', Attempt.asked_bind_ok hrun', callsStarted_append, hcalls']
    cases base with
    | some line =>
      have hline := (hgives' line).1 rfl
      refine ⟨some (((Path.ofString line).child "lib").child modulesName), rfl, fun root => ⟨?_, fun h => ?_⟩, ?_⟩
      · rintro ⟨⟩
        exact .npmPrefix hnone hline
      · cases h with
        | npmRoot hline => exact absurd hline (hnone _)
        | npmPrefix _ hline => cases (hgives' _).2 hline; rfl
      · simpa [callsStarted] using Inquired.npmPrefix hnone
    | none =>
      refine ⟨none, rfl, fun root => ⟨?_, fun h => ?_⟩, ?_⟩
      · rintro ⟨⟩
      · cases h with
        | npmRoot hline => exact absurd hline (hnone _)
        | npmPrefix _ hline => cases (hgives' _).2 hline
      · simpa [callsStarted] using Inquired.npmPrefix hnone

/-- The question for yarn comes to its global directory. -/
theorem runOn_askYarn (s : State) :
    ∃ found, (askYarn.runOn s).1 = .ok found ∧ (∀ root, found = some root ↔ GlobalRoot s.host .yarn root) ∧
      Inquired s.host .yarn (callsStarted (askYarn.asked s)) := by
  obtain ⟨answer, s', hrun, -, hgives, hcalls⟩ := runOn_ask .yarnDirectory s
  have hrun : (ask "yarn" ["global", "dir"]).runOn s = _ := hrun
  have hcalls : callsStarted ((ask "yarn" ["global", "dir"]).asked s) = _ := hcalls
  rw [askYarn, Attempt.runOn_bind_ok hrun, Attempt.asked_bind_ok hrun, callsStarted_append, hcalls]
  cases answer with
  | some line =>
    have hline := (hgives line).1 rfl
    refine ⟨some ((Path.ofString line).child modulesName), rfl, fun root => ⟨?_, fun h => ?_⟩, ?_⟩
    · rintro ⟨⟩
      exact .yarnDirectory hline
    · cases h with
      | yarnDirectory hline => cases (hgives _).2 hline; rfl
    · simpa [callsStarted] using Inquired.yarnDirectory
  | none =>
    refine ⟨none, rfl, fun root => ⟨?_, fun h => ?_⟩, ?_⟩
    · rintro ⟨⟩
    · cases h with
      | yarnDirectory hline => cases (hgives _).2 hline
    · simpa [callsStarted] using Inquired.yarnDirectory

theorem asks_rootQuestion (source : Source) : (rootQuestion source).Asks Query.Looks := by
  cases source with
  | npm => exact asks_askNpm
  | yarn => exact asks_askYarn
  | project => exact Attempt.asks_pure _

/-- The question for a source comes to its global directory, if it has one. -/
theorem runOn_rootQuestion (source : Source) (s : State) :
    ∃ found, ((rootQuestion source).runOn s).1 = .ok found ∧
      (∀ root, found = some root ↔ GlobalRoot s.host source root) ∧
      Inquired s.host source (callsStarted ((rootQuestion source).asked s)) := by
  cases source with
  | npm => exact runOn_askNpm s
  | yarn => exact runOn_askYarn s
  | project =>
    refine ⟨none, rfl, fun root => ⟨?_, fun h => ?_⟩, .project⟩
    · rintro ⟨⟩
    · cases h

end Library

end LintBridge
