-- SUMMARY: When the fix command writes its file, what it leaves of all others, and how it ends.
import LintBridge.Proofs.CommandLine.Stages
import LintBridge.Proofs.Routine.Lint
import LintBridge.Proofs.Routine.Started
import LintBridge.Proofs.Service.Errors
import LintBridge.Proofs.Uri

/-!
# Fixing a file

The command reads a file, lints it, and reads it once more. It writes last, and only when nothing before
has failed; the file that it writes is the one that it has read, whichever links its path leads through.
-/

namespace LintBridge.CommandLine

open Text FileTree

variable {s : State} {file : Path} {apply verbose : Bool} {rule : Option Text.Codes}

/-! ## Lints of a file -/

/-- What a fix finds out about a file before it looks at the edits. -/
structure LintRun where
  settings : Settings
  /-- The resolved path of the file. -/
  found : Path
  text : List Char
  time : Nat
  failures : List Failure
  result : FixResult
  /-- The state after the lint. -/
  now : State

/-- The settings load, the file is read as UTF-8, its lint succeeds, and the failures have edits. -/
structure Linted (s : State) (file : Path) (rule : Option Text.Codes) (verbose : Bool) (l : LintRun) :
    Prop where
  settings : Settings.load [] s.host.environment = .ok l.settings
  found : s.host.files.resolve file = .ok l.found
  text : s.host.files.textOf? l.found = some (l.text, l.time)
  failures : ((service l.settings).failuresOf l.found
    (documentOf (Uri.ofPath l.found) l.text l.time)).runOn (configured s verbose) = (.ok l.failures, l.now)
  result : FixResult.ofFailures ⟨l.text⟩ l.time rule l.failures = .ok l.result

/-- The URI of a resolved path is read as that path. -/
theorem toPath_of_resolve {t : FileTree} (ht : t.HasWorkingDirectory) {p found : Path} (hp : p.Proper)
    (h : t.resolve p = .ok found) : Uri.toPath (Uri.ofPath found) = .ok found := by
  obtain rfl := realPath_of_resolve h
  exact Uri.toPath_ofPath (proper_realPath ht hp) rfl

/-- A lint leaves the contents of all files. -/
theorem sameContents_failuresOf {settings : Settings} {document : Document} {now : State}
    {failures : Except LintError (List Failure)}
    (h : ((service settings).failuresOf file document).runOn (configured s verbose) = (failures, now)) :
    s.host.files.SameContents now.host.files := by
  have hasks : Routine.Asks Query.KeepsFiles ((service settings).failuresOf file document).run :=
    Routine.Asks.mono (fun q hq => by cases q <;> trivial) (Service.asks_failuresOf _ _ _)
  have hrun := hasks.sameContents (configured s verbose)
  have h : Routine.run ((service settings).failuresOf file document).run (configured s verbose) = _ := h
  rwa [h] at hrun

/-! ## Why a fix writes, and why it does not -/

/-- All that has to hold before edits are written: the lint has succeeded with edits, the file can be
read again at the time that the edits were computed for, and they apply to its text and give characters. -/
structure Ready (s : State) (file : Path) (rule : Option Text.Codes) (verbose : Bool) (l : LintRun)
    (fixed : List Char) : Prop where
  linted : Linted s file rule verbose l
  edits : l.result.edits ≠ []
  current : ∃ text time, l.now.host.files.textOf? file = some (text, time) ∧
    l.result.isCurrent time = true ∧ (Snapshot.mk text).apply l.result.edits = .ok (.ofChars fixed)

/-- Why a fix that writes nothing ends with an exit status. -/
inductive ExitCause (s : State) (file : Path) (apply : Bool) (rule : Option Text.Codes) (verbose : Bool) :
    Exit → Prop
  | badSettings {e : SettingsError} :
      Settings.load [] s.host.environment = .error e → ExitCause s file apply rule verbose .failure
  /-- The file cannot be read, or not as UTF-8. -/
  | unreadable {settings : Settings} {found : Path} :
      Settings.load [] s.host.environment = .ok settings → s.host.files.resolve file = .ok found →
      hasNul found = false → s.host.files.textOf? found = none →
      ExitCause s file apply rule verbose .failure
  /-- Library or configuration cannot be found, or the library fails. -/
  | notLinted {settings : Settings} {found : Path} {text : List Char} {time : Nat} {e : LintError}
      {now : State} :
      Settings.load [] s.host.environment = .ok settings → s.host.files.resolve file = .ok found →
      s.host.files.textOf? found = some (text, time) →
      ((service settings).failuresOf found (documentOf (Uri.ofPath found) text time)).runOn
        (configured s verbose) = (.error e, now) →
      e.treatment ≠ .passed → ExitCause s file apply rule verbose .failure
  | noEdits {l : LintRun} :
      Linted s file rule verbose l → l.result.edits = [] → ExitCause s file apply rule verbose .success
  | shown {l : LintRun} :
      Linted s file rule verbose l → l.result.edits ≠ [] → apply = false →
      ExitCause s file apply rule verbose .success
  /-- The file cannot be read again, or is no longer the one that was linted. -/
  | outdated {l : LintRun} :
      Linted s file rule verbose l → l.result.edits ≠ [] → apply = true →
      (∀ text time, l.now.host.files.textOf? l.found = some (text, time) →
        l.result.isCurrent time = false) → ExitCause s file apply rule verbose .findings
  | refused {l : LintRun} {text : List Char} {time : Nat} {e : ApplyError} :
      Linted s file rule verbose l → l.result.edits ≠ [] → apply = true →
      l.now.host.files.textOf? l.found = some (text, time) → l.result.isCurrent time = true →
      (Snapshot.mk text).apply l.result.edits = .error e → ExitCause s file apply rule verbose .failure

/-! ## Runs of a lint -/

section Runs

variable {word : String} {settings : Settings} {found : Path} {text : List Char} {time : Nat} {e : LintError}
  {now : State} {l : LintRun}

theorem Linted.fixLint (hs : s.host.files.HasWorkingDirectory)
    (h : Linted s (.ofString word) rule verbose l) :
    ((service l.settings).fixLint (Uri.ofPath l.found) rule).runOn (configured s verbose) =
      (.ok (.complete l.result), l.now) := by
  have huri := toPath_of_resolve hs (Path.proper_ofString word) h.found
  refine (Service.runOn_fixLint_target (runOn_target (s := configured s verbose) huri h.text)).trans ?_
  refine Service.runOn_fixDocument_complete h.failures ?_
  rw [ofString_documentOf]
  exact h.result

/-- A document that cannot be linted ends the command, unless the error is passed on. -/
theorem runOn_fix_notLinted (hs : s.host.files.HasWorkingDirectory)
    (hsettings : Settings.load [] s.host.environment = .ok settings)
    (hfound : s.host.files.resolve (.ofString word) = .ok found)
    (htext : s.host.files.textOf? found = some (text, time))
    (hlint : ((service settings).failuresOf found (documentOf (Uri.ofPath found) text time)).runOn
      (configured s verbose) = (.error e, now)) :
    ∃ s', (fix (.ofString word) apply rule verbose).runOn s =
      (if e.treatment = .passed then .error e else .ok .failure, s') ∧ s'.host = now.host := by
  have huri := toPath_of_resolve hs (Path.proper_ofString word) hfound
  have htarget : ((service settings).fixLint (Uri.ofPath found) rule).runOn (configured s verbose) = _ :=
    Service.runOn_fixLint_target (runOn_target (s := configured s verbose) huri htext)
  cases he : e.treatment with
  | passed =>
    have hraised := htarget.trans (Service.runOn_fixDocument_passed hlint he)
    exact ⟨now, runOn_fix_raised hsettings hfound (by simp [he]) hraised, rfl⟩
  | fatal =>
    have hfatal := htarget.trans (Service.runOn_fixDocument_fatal hlint he)
    obtain ⟨cause, rfl⟩ := LintError.treatment_eq_fatal_iff.1 he
    exact ⟨_, runOn_fix_fatal hsettings hfound hfatal, rfl⟩
  | foreign =>
    have hnone := htarget.trans (Service.runOn_fixDocument_withoutEdits hlint (.inl he))
    exact ⟨_, runOn_fix_incomplete hsettings hfound (by simp) hnone, rfl⟩
  | unresolved =>
    have hnone := htarget.trans (Service.runOn_fixDocument_withoutEdits hlint (.inr he))
    exact ⟨_, runOn_fix_incomplete hsettings hfound (by simp) hnone, rfl⟩

/-- A file that cannot be read as UTF-8 ends the command. -/
theorem runOn_fix_unreadable (hs : s.host.files.HasWorkingDirectory)
    (hsettings : Settings.load [] s.host.environment = .ok settings)
    (hfound : s.host.files.resolve (.ofString word) = .ok found) (hnul : hasNul found = false)
    (htext : s.host.files.textOf? found = none) :
    ∃ s', (fix (.ofString word) apply rule verbose).runOn s = (.ok .failure, s') ∧ s'.host = s.host := by
  have huri := toPath_of_resolve hs (Path.proper_ofString word) hfound
  have hrefused : ((service settings).fixLint (Uri.ofPath found) rule).runOn (configured s verbose) = _ :=
    Service.runOn_fixLint_refused (runOn_target_none (s := configured s verbose) huri hnul htext)
      (.inr rfl)
  exact ⟨_, runOn_fix_incomplete hsettings hfound (by simp) hrefused, rfl⟩

theorem runOn_fix_nul (hs : s.host.files.HasWorkingDirectory)
    (hsettings : Settings.load [] s.host.environment = .ok settings)
    (hfound : s.host.files.resolve (.ofString word) = .ok found) (hnul : hasNul found = true) :
    (fix (.ofString word) apply rule verbose).runOn s = (.error .nulInPath, configured s verbose) := by
  have huri := toPath_of_resolve hs (Path.proper_ofString word) hfound
  have hraised : ((service settings).fixLint (Uri.ofPath found) rule).runOn (configured s verbose) = _ :=
    Service.runOn_fixLint_raised (runOn_target_nul (s := configured s verbose) huri hnul) (.inr rfl)
  exact runOn_fix_raised hsettings hfound (fun h => nomatch h) hraised

/-- Failures at places that no position can name raise an error. -/
theorem runOn_fix_position (hs : s.host.files.HasWorkingDirectory)
    (hsettings : Settings.load [] s.host.environment = .ok settings)
    (hfound : s.host.files.resolve (.ofString word) = .ok found)
    (htext : s.host.files.textOf? found = some (text, time)) {failures : List Failure}
    (hlint : ((service settings).failuresOf found (documentOf (Uri.ofPath found) text time)).runOn
      (configured s verbose) = (.ok failures, now))
    {cause : PositionError} (hresult : FixResult.ofFailures ⟨text⟩ time rule failures = .error cause) :
    (fix (.ofString word) apply rule verbose).runOn s = (.error (.position cause), now) := by
  have huri := toPath_of_resolve hs (Path.proper_ofString word) hfound
  have htarget : ((service settings).fixLint (Uri.ofPath found) rule).runOn (configured s verbose) = _ :=
    Service.runOn_fixLint_target (runOn_target (s := configured s verbose) huri htext)
  rw [← ofString_documentOf (Uri.ofPath found) text time] at hresult
  have hraised := htarget.trans (Service.runOn_fixDocument_position hlint hresult)
  exact runOn_fix_raised hsettings hfound (fun h => nomatch h) hraised

theorem host_showEdits (file : Path) (edits : List TextEdit) (s : State) :
    ((showEdits file edits).run s).2.host = s.host := by
  induction edits generalizing s with
  | nil => rfl
  | cons e rest ih =>
    rw [showEdits, List.forM, Routine.run_bind]
    exact (ih _).trans rfl

theorem Linted.runOn_fix_noEdits (hs : s.host.files.HasWorkingDirectory)
    (h : Linted s (.ofString word) rule verbose l) (hedits : l.result.edits = []) :
    ∃ s', (fix (.ofString word) apply rule verbose).runOn s = (.ok .success, s') ∧ s'.host = l.now.host := by
  have hcomplete : (fix (.ofString word) apply rule verbose).runOn s = _ :=
    runOn_fix_complete h.settings h.found (h.fixLint hs)
  rw [if_pos (by rw [hedits]; rfl)] at hcomplete
  exact ⟨_, hcomplete, rfl⟩

theorem Linted.runOn_fix_shown (hs : s.host.files.HasWorkingDirectory)
    (h : Linted s (.ofString word) rule verbose l) (hedits : l.result.edits ≠ []) :
    ∃ s', (fix (.ofString word) false rule verbose).runOn s = (.ok .success, s') ∧ s'.host = l.now.host := by
  have hcomplete : (fix (.ofString word) false rule verbose).runOn s = _ :=
    runOn_fix_complete h.settings h.found (h.fixLint hs)
  rw [if_neg (by simpa using hedits), if_neg (by simp)] at hcomplete
  exact ⟨_, hcomplete, host_showEdits ..⟩

theorem Linted.runOn_fix_apply (hs : s.host.files.HasWorkingDirectory)
    (h : Linted s (.ofString word) rule verbose l) (hedits : l.result.edits ≠ []) :
    (fix (.ofString word) true rule verbose).runOn s =
      (applyEdits (.ofString word) (Uri.ofPath l.found) l.result).runOn l.now := by
  have hcomplete : (fix (.ofString word) true rule verbose).runOn s = _ :=
    runOn_fix_complete h.settings h.found (h.fixLint hs)
  rwa [if_neg (by simpa using hedits), if_pos rfl] at hcomplete

/-- The resolved path of a file that has been linted holds no NUL character. -/
theorem Linted.hasNul_found (h : Linted s file rule verbose l) : hasNul l.found = false := by
  obtain ⟨place, content, hplace, -⟩ := textOf?_eq_some_iff.1 h.text
  exact (placeOf_eq_ok_iff.1 hplace).1

theorem Linted.sameContents (h : Linted s file rule verbose l) :
    s.host.files.SameContents l.now.host.files := sameContents_failuresOf h.failures

/-- The resolved path of a file leads where the path of the file does. -/
theorem Linted.placeOf_found (hs : s.host.files.HasWorkingDirectory) (h : Linted s (.ofString word) rule verbose l)
    {place : List String} (hplace : s.host.files.placeOf (.ofString word) = .ok place) :
    s.host.files.placeOf l.found = .ok place := by
  have hreal := realPath_of_resolve h.found
  have hfound := placeOf_realPath hs (Path.proper_ofString word) hplace (hreal ▸ h.hasNul_found)
  rwa [hreal] at hfound

end Runs

/-! ## Ends of a fix -/

section Ends

variable {word : String}

/-- When all that is needed holds, the file is written, unless the system breaks the write off. -/
theorem Ready.runOn_fix (hs : s.host.files.HasWorkingDirectory) {l : LintRun} {fixed : List Char}
    (h : Ready s (.ofString word) rule verbose l fixed) :
    (∃ cause s', (fix (.ofString word) true rule verbose).runOn s = (.error (.unwritable (.ofString word) cause), s') ∧
      s.host.writeFaults (.ofString word) (Utf8.encode fixed) = some cause) ∨
    ∃ s' place old count, (fix (.ofString word) true rule verbose).runOn s = (.ok .success, s') ∧
      s.host.files.placeOf (.ofString word) = .ok place ∧
      s.host.files.node? place = some (.file (some old) count) ∧
      (s.host.files.set place (.file (some (Utf8.encode fixed)) 0)).SameContents s'.host.files := by
  obtain ⟨text, time, htext, hversion, happly⟩ := h.current
  have hsame := h.linted.sameContents
  obtain ⟨place, old, hplaceNow, hnodeNow, hold⟩ := textOf?_eq_some_iff.1 htext
  have hplace := (hsame.placeOf _).trans hplaceNow
  obtain ⟨count, hnode⟩ := hsame.symm.file hnodeNow
  -- the resolved path leads to the same place, so the file is read through it as well
  have huri := toPath_of_resolve hs (Path.proper_ofString word) h.linted.found
  have hplaceFound := (hsame.placeOf _).symm.trans (h.linted.placeOf_found hs hplace)
  have htextFound := textOf?_eq_some_iff.2 ⟨place, old, hplaceFound, hnodeNow, hold⟩
  have hrun := h.linted.runOn_fix_apply hs h.edits
  have hfaults : l.now.host.writeFaults = s.host.writeFaults := by
    obtain ⟨files, hhost⟩ := Routine.host_run ((service l.settings).failuresOf l.found _).run (configured s verbose)
    have hnow : l.now.host = _ := (congrArg (·.2.host) h.linted.failures).symm.trans hhost
    rw [hnow]
    rfl
  cases hfault : l.now.host.writeFaults (.ofString word) (Utf8.encode fixed) with
  | some cause =>
    have hwrite : ∃ host, l.now.host.write (.ofString word) (Utf8.encode fixed) = (.error cause, host) := by
      simp only [Host.write, hfault, Prod.mk.injEq, true_and, exists_eq']
    obtain ⟨host, hwrite⟩ := hwrite
    exact .inl ⟨cause, _, hrun.trans (runOn_applyEdits_unwritable huri htextFound hversion happly hwrite),
      hfaults ▸ hfault⟩
  | none =>
    have hwrite := Host.write_of_file hfault hplaceNow hnodeNow
    exact .inr ⟨_, place, old, count, hrun.trans
      (runOn_applyEdits_written huri htextFound hversion happly hwrite), hplace, hnode,
      hsame.set (ne_nil_of_file hnode) rfl⟩

/-- A lint that goes on to the edits either is ready to write or leaves all files as they are. -/
theorem Linted.ends (hs : s.host.files.HasWorkingDirectory) {l : LintRun}
    (h : Linted s (.ofString word) rule verbose l) (hedits : l.result.edits ≠ []) :
    (∃ fixed, Ready s (.ofString word) rule verbose l fixed) ∨
      ∃ outcome s', (fix (.ofString word) true rule verbose).runOn s = (outcome, s') ∧
        s'.host = l.now.host ∧
        ∀ exit, outcome = .ok exit → ExitCause s (.ofString word) true rule verbose exit := by
  have huri := toPath_of_resolve hs (Path.proper_ofString word) h.found
  have hrun := h.runOn_fix_apply hs hedits
  by_cases hold : ∀ text time, l.now.host.files.textOf? l.found = some (text, time) →
      l.result.isCurrent time = false
  · refine .inr ⟨_, _, hrun.trans (runOn_applyEdits_outdated huri h.hasNul_found hold), rfl, ?_⟩
    rintro exit ⟨⟩
    exact .outdated h hedits rfl hold
  simp only [not_forall, Bool.not_eq_false] at hold
  obtain ⟨text, time, htext, hversion⟩ := hold
  cases happly : (Snapshot.mk text).apply l.result.edits with
  | error e =>
    refine .inr ⟨_, _, hrun.trans (runOn_applyEdits_refused huri htext hversion happly), rfl, ?_⟩
    rintro exit ⟨⟩
    exact .refused h hedits rfl htext hversion happly
  | ok given =>
    rcases given.whole_or_lone with ⟨fixed, rfl⟩ | ⟨start, u, rest, rfl⟩
    case inr =>
      refine .inr ⟨_, _, hrun.trans
        (runOn_applyEdits_unencodable huri htext hversion happly (Codes.encode_lone start u rest)), rfl, ?_⟩
      rintro exit ⟨⟩
    cases hplaceNow : l.now.host.files.placeOf (.ofString word) with
    | error cause =>
      obtain ⟨fault, hwrite⟩ := Host.write_of_error (Utf8.encode fixed) hplaceNow
      refine .inr ⟨_, _, hrun.trans (runOn_applyEdits_unwritable huri htext hversion happly hwrite), rfl, ?_⟩
      rintro exit ⟨⟩
    | ok place =>
      -- what is read through the resolved path is what stands where the path itself leads
      have hplace := (h.sameContents.placeOf _).trans hplaceNow
      have hplaceFound := (h.sameContents.placeOf _).symm.trans (h.placeOf_found hs hplace)
      obtain ⟨place', content, hplace', hnode, hcontent⟩ := textOf?_eq_some_iff.1 htext
      cases hplaceFound.symm.trans hplace'
      have htext := textOf?_eq_some_iff.2 ⟨place, content, hplaceNow, hnode, hcontent⟩
      exact .inl ⟨fixed, h, hedits, text, time, htext, hversion, happly⟩

/-- A fix is ready to write, or leaves all files as they are and has a cause for its exit status. -/
theorem fix_ends (hs : s.host.files.HasWorkingDirectory) (word : String) (apply : Bool)
    (rule : Option Text.Codes) (verbose : Bool) :
    (apply = true ∧ ∃ l fixed, Ready s (.ofString word) rule verbose l fixed) ∨
      ∃ outcome s', (fix (.ofString word) apply rule verbose).runOn s = (outcome, s') ∧
        s.host.files.SameContents s'.host.files ∧
        ∀ exit, outcome = .ok exit → ExitCause s (.ofString word) apply rule verbose exit := by
  cases hsettings : Settings.load [] s.host.environment with
  | error e =>
    obtain ⟨s', hrun, hhost⟩ := runOn_fix_settings hsettings
    refine .inr ⟨_, s', hrun, hhost ▸ .refl _, ?_⟩
    rintro exit ⟨⟩
    exact .badSettings hsettings
  | ok settings =>
  cases hfound : s.host.files.resolve (.ofString word) with
  | error cause =>
    obtain ⟨e, hrun⟩ := runOn_fix_unresolved hsettings hfound
    refine .inr ⟨_, _, hrun, .refl _, ?_⟩
    rintro exit ⟨⟩
  | ok found =>
  cases htext : s.host.files.textOf? found with
  | none =>
    cases hnul : hasNul found with
    | true =>
      refine .inr ⟨_, _, runOn_fix_nul hs hsettings hfound hnul, .refl _, ?_⟩
      rintro exit ⟨⟩
    | false =>
      obtain ⟨s', hrun, hhost⟩ := runOn_fix_unreadable hs hsettings hfound hnul htext
      refine .inr ⟨_, s', hrun, hhost ▸ .refl _, ?_⟩
      rintro exit ⟨⟩
      exact .unreadable hsettings hfound hnul htext
  | some document =>
  obtain ⟨text, time⟩ := document
  cases hlint : ((service settings).failuresOf found (documentOf (Uri.ofPath found) text time)).runOn
      (configured s verbose) with
  | mk lint now =>
  have hsame := sameContents_failuresOf hlint
  cases lint with
  | error e =>
    obtain ⟨s', hrun, hhost⟩ := runOn_fix_notLinted hs hsettings hfound htext hlint
    refine .inr ⟨_, s', hrun, hhost ▸ hsame, fun exit hexit => ?_⟩
    split at hexit
    next => cases hexit
    next htreatment => cases hexit; exact .notLinted hsettings hfound htext hlint htreatment
  | ok failures =>
  cases hresult : FixResult.ofFailures ⟨text⟩ time rule failures with
  | error cause =>
    refine .inr ⟨_, now, runOn_fix_position hs hsettings hfound htext hlint hresult, hsame, ?_⟩
    rintro exit ⟨⟩
  | ok result =>
  have hlinted : Linted s (.ofString word) rule verbose
      ⟨settings, found, text, time, failures, result, now⟩ := ⟨hsettings, hfound, htext, hlint, hresult⟩
  by_cases hedits : result.edits = []
  · obtain ⟨s', hrun, hhost⟩ := hlinted.runOn_fix_noEdits hs hedits
    refine .inr ⟨_, s', hrun, hhost ▸ hsame, ?_⟩
    rintro exit ⟨⟩
    exact .noEdits hlinted hedits
  cases apply with
  | false =>
    obtain ⟨s', hrun, hhost⟩ := hlinted.runOn_fix_shown hs hedits
    refine .inr ⟨_, s', hrun, hhost ▸ hsame, ?_⟩
    rintro exit ⟨⟩
    exact .shown hlinted hedits rfl
  | true =>
    rcases hlinted.ends hs hedits with ⟨fixed, hready⟩ | ⟨outcome, s', hrun, hhost, hexit⟩
    · exact .inl ⟨rfl, _, fixed, hready⟩
    · exact .inr ⟨outcome, s', hrun, hhost ▸ hsame, hexit⟩

/-- A project with one file, whose library would end the last line in another way. -/
def project : State where
  host := {
    files := ⟨[(["src"], .directory),
      (["src", "a.ts"], .file (some (Utf8.encode "\uFEFFa\r\n😀\r".toList)) 1),
      (["tslint.json"], .file (some []) 1), (["node_modules"], .directory),
      (["node_modules", "tslint"], .directory),
      (["node_modules", "tslint", "package.json"], .file (some (Utf8.encode "\x7b\x7d".toList)) 1)], []⟩
    environment := []
    executables := [("node", "/bin/node")]
    -- the configuration is loaded in the root, and the file is linted in its directory
    replies := fun call =>
      let result :=
        if call.cwd = some ⟨.root, []⟩ then "\x7b\x7d"
        else "[\x7b\"start\":\x7b\"position\":6,\"line\":1,\"character\":2\x7d," ++
          "\"end\":\x7b\"position\":7,\"line\":2,\"character\":0\x7d," ++
          "\"fix\":\x7b\"start\":6,\"end\":7,\"text\":\"\\n\"\x7d\x7d]"
      { outcome := .exited 0 (some ("\x7b\"ok\":1,\"result\":" ++ result ++ "\x7d")) none } }

/-- What a fix finds out about the file of the project. -/
def projectLint (now : State) : LintRun where
  settings := {}
  found := ⟨.root, ["src", "a.ts"]⟩
  text := "\uFEFFa\r\n😀\r".toList
  time := 1
  failures := [⟨"", none, ⟨6, 1, 2⟩, ⟨7, 2, 0⟩, some [⟨6, 7, "\n", by decide⟩]⟩]
  result := ⟨1, [⟨⟨⟨1, 2, by decide, by decide⟩, ⟨2, 0, by decide, by decide⟩⟩, "\n"⟩], none⟩
  now

theorem hasWorkingDirectory_project : project.host.files.HasWorkingDirectory :=
  ⟨"/", by decide, by decide +kernel⟩

theorem ready_project :
    ∃ now, Ready project (.ofString "/src/a.ts") none false (projectLint now) "\uFEFFa\r\n😀\n".toList := by
  generalize hrun : ((service {}).failuresOf ⟨.root, ["src", "a.ts"]⟩
    (documentOf (Uri.ofPath ⟨.root, ["src", "a.ts"]⟩) "\uFEFFa\r\n😀\r".toList 1)).runOn
      (configured project false) = run
  have hends : (run.1.toOption, run.2.host.files) =
      (some (projectLint run.2).failures, project.host.files) := by
    rw [← hrun]
    decide +kernel
  obtain ⟨hfailures, hfiles⟩ := Prod.mk.inj hends
  have htext : run.2.host.files.textOf? (.ofString "/src/a.ts") = some ((projectLint run.2).text, 1) := by
    rw [hfiles]
    dsimp only [projectLint]
    decide +kernel
  have hfixed : (Snapshot.mk (projectLint run.2).text).apply (projectLint run.2).result.edits =
      .ok (.ofChars "\uFEFFa\r\n😀\n".toList) := by
    dsimp only [projectLint]
    exact toOption_eq_some_iff.1 (by decide +kernel)
  have hlinted : Linted project (.ofString "/src/a.ts") none false (projectLint run.2) := by
    refine ⟨rfl, toOption_eq_some_iff.1 ?_, ?_, hrun.trans ?_, toOption_eq_some_iff.1 ?_⟩
    · dsimp only [projectLint]
      decide +kernel
    · dsimp only [projectLint]
      decide +kernel
    · exact Prod.ext (toOption_eq_some_iff.1 hfailures) rfl
    · dsimp only [projectLint]
      decide +kernel
  exact ⟨run.2, hlinted, by simp [projectLint], _, _, htext, rfl, hfixed⟩

end Ends

end LintBridge.CommandLine
