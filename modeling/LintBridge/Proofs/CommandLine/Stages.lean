-- SUMMARY: What the fix command comes to, by what its stages come to.
import LintBridge.CommandLine.Basic
import LintBridge.Proofs.Service.Stages
import LintBridge.Proofs.Text.Codes

/-!
# Stages of the fix command

The command loads the settings, resolves the path, requests the edits, and applies them to the file as
it is then. Each stage either gives what the next one needs or decides how the command ends.
-/

namespace LintBridge.CommandLine

open Text Attempt

/-! ## Reading a document -/

section Documents

variable {uri : String} {file : Path} {text : List Char} {time : Nat} {s : State} {settings : Settings}

/-- The document of a file that can be read. -/
def documentOf (uri : String) (text : List Char) (time : Nat) : Document :=
  { uri, text := String.ofList text, version := time }

theorem runOn_readDocument (huri : Uri.toPath uri = .ok file)
    (h : s.host.files.textOf? file = some (text, time)) :
    (readDocument uri).runOn s = (.ok (some (documentOf uri text time)), s) := by
  obtain ⟨place, content, hplace, hnode, htext⟩ := FileTree.textOf?_eq_some_iff.1 h
  have hread := FileTree.read_eq_ok_iff.2 ⟨place, time, hplace, hnode⟩
  have hmodified := FileTree.modified_of_file hplace hnode
  refine (runOn_bind_ok (Service.runOn_fileOf huri)).trans ?_
  refine (runOn_step_bind (.read file) _ s).trans ?_
  simp only [Query.answer, hread, htext]
  refine (runOn_step_bind (.modified file) _ s).trans ?_
  simp only [Query.answer, hmodified]
  rfl

/-- A file that cannot be read as UTF-8 is no document. -/
theorem runOn_readDocument_none (huri : Uri.toPath uri = .ok file) (hnul : FileTree.hasNul file = false)
    (h : s.host.files.textOf? file = none) : (readDocument uri).runOn s = (.ok none, s) := by
  refine (runOn_bind_ok (Service.runOn_fileOf huri)).trans ?_
  refine (runOn_step_bind (.read file) _ s).trans ?_
  have hread : s.host.files.read file ≠ .error .nulCharacter := by
    rw [ne_eq, FileTree.read_eq_nulCharacter_iff, hnul]
    exact Bool.false_ne_true
  simp only [Query.answer]
  split
  next h' => exact absurd h' hread
  next => rfl
  next content hcontent =>
    cases htext : Utf8.decode? content with
    | none => rfl
    | some text =>
      obtain ⟨place, time, hplace, hnode⟩ := FileTree.read_eq_ok_iff.1 hcontent
      cases h.symm.trans (FileTree.textOf?_eq_some_iff.2 ⟨place, content, hplace, hnode, htext⟩)

theorem runOn_readDocument_nul (huri : Uri.toPath uri = .ok file) (hnul : FileTree.hasNul file = true) :
    (readDocument uri).runOn s = (.error .nulInPath, s) := by
  have hread := FileTree.read_eq_nulCharacter_iff (t := s.host.files).2 hnul
  refine (runOn_bind_ok (Service.runOn_fileOf huri)).trans ?_
  refine (runOn_step_bind (.read file) _ s).trans ?_
  simp only [Query.answer, hread]
  rfl

end Documents

/-! ## The target of a fix -/

section Target

variable {uri : String} {file : Path} {text : List Char} {time : Nat} {s : State} {settings : Settings}

theorem runOn_target (huri : Uri.toPath uri = .ok file)
    (h : s.host.files.textOf? file = some (text, time)) :
    ((service settings).target uri).runOn s = (.ok (file, documentOf uri text time), s) :=
  Service.runOn_target_open huri (runOn_readDocument huri h)

theorem runOn_target_none (huri : Uri.toPath uri = .ok file) (hnul : FileTree.hasNul file = false)
    (h : s.host.files.textOf? file = none) :
    ((service settings).target uri).runOn s = (.error (.notOpen uri), s) :=
  Service.runOn_target_notOpen huri (runOn_readDocument_none huri hnul h)

theorem runOn_target_nul (huri : Uri.toPath uri = .ok file) (hnul : FileTree.hasNul file = true) :
    ((service settings).target uri).runOn s = (.error .nulInPath, s) :=
  Service.runOn_target_store huri (runOn_readDocument_nul huri hnul)

end Target

/-! ## Stages of a fix -/

/-- The state after the log has been made ready. -/
def configured (s : State) (verbose : Bool) : State := { s with sink := s.sink.configure verbose }

section Stages

variable {uri : String} {file found : Path} {apply verbose : Bool} {rule : Option Text.Codes}
  {settings : Settings} {s s' : State}

theorem run_prepare (verbose : Bool) (s : State) :
    (prepare verbose).run s =
      match Settings.load [] s.host.environment with
      | .ok settings => (some settings, configured s verbose)
      | .error e =>
        (none, (configured s verbose).emit (.printed .err (Console.paragraph ("" ++ e.message)))) := by
  refine (Routine.run_bind (Routine.step (.configureLog verbose)) _ s).trans ?_
  refine (Routine.run_bind (Routine.step .environment) _ (configured s verbose)).trans ?_
  change Routine.run (match Settings.load [] s.host.environment with | .ok _ => _ | .error _ => _) _ = _
  cases Settings.load [] s.host.environment with
  | ok settings => rfl
  | error e => rfl

theorem runOn_prepare (h : Settings.load [] s.host.environment = .ok settings) :
    ((prepare verbose).attempt : Attempt LintError (Option Settings)).runOn s =
      (.ok (some settings), configured s verbose) := by
  rw [runOn_attempt, run_prepare, h]

theorem runOn_uriOf (h : s.host.files.resolve file = .ok found) :
    (uriOf file).runOn s = (.ok (Uri.ofPath found), s) := by
  refine (runOn_step_bind (.resolve file) _ s).trans ?_
  simp only [Query.answer, h]
  rfl

theorem runOn_uriOf_error {cause : FileTree.ResolveError} (h : s.host.files.resolve file = .error cause) :
    ∃ e, (uriOf file).runOn s = (.error e, s) := by
  cases cause with
  | nulCharacter =>
    refine ⟨.nulInPath, (runOn_step_bind (.resolve file) _ s).trans ?_⟩
    simp only [Query.answer, h]
    rfl
  | loop found =>
    refine ⟨.linkLoop found, (runOn_step_bind (.resolve file) _ s).trans ?_⟩
    simp only [Query.answer, h]
    rfl

/-- Invalid settings end the command. -/
theorem runOn_fix_settings {e : SettingsError} (h : Settings.load [] s.host.environment = .error e) :
    ∃ s', (fix file apply rule verbose).runOn s = (.ok .failure, s') ∧ s'.host = s.host := by
  refine ⟨(configured s verbose).emit (.printed .err (Console.paragraph ("" ++ e.message))), ?_, rfl⟩
  rw [fix, runOn_bind, runOn_attempt, run_prepare, h]
  rfl

/-- A path that cannot be resolved raises an error. -/
theorem runOn_fix_unresolved (h : Settings.load [] s.host.environment = .ok settings)
    {cause : FileTree.ResolveError} (hfound : s.host.files.resolve file = .error cause) :
    ∃ e, (fix file apply rule verbose).runOn s = (.error e, configured s verbose) := by
  obtain ⟨e, huri⟩ := runOn_uriOf_error (s := configured s verbose) hfound
  refine ⟨e, ?_⟩
  refine (runOn_bind_ok (runOn_prepare h)).trans ?_
  exact runOn_bind_error huri

variable {e : LintError} {result : FixResult}

/-- A failure of the library that the request reports ends the command. -/
theorem runOn_fix_fatal (h : Settings.load [] s.host.environment = .ok settings)
    (hfound : s.host.files.resolve file = .ok found) {cause : BridgeError}
    (hlint : ((service settings).fixLint (Uri.ofPath found) rule).runOn (configured s verbose) =
      (.error (.bridge cause), s')) :
    (fix file apply rule verbose).runOn s = (.ok .failure, s') := by
  refine (runOn_bind_ok (runOn_prepare h)).trans ?_
  dsimp only
  refine (runOn_bind_ok (runOn_uriOf (s := configured s verbose) hfound)).trans ?_
  exact runOn_bind_attempt hlint

theorem runOn_fix_raised (h : Settings.load [] s.host.environment = .ok settings)
    (hfound : s.host.files.resolve file = .ok found) (he : e.treatment ≠ .fatal)
    (hlint : ((service settings).fixLint (Uri.ofPath found) rule).runOn (configured s verbose) =
      (.error e, s')) :
    (fix file apply rule verbose).runOn s = (.error e, s') := by
  refine (runOn_bind_ok (runOn_prepare h)).trans ?_
  dsimp only
  refine (runOn_bind_ok (runOn_uriOf (s := configured s verbose) hfound)).trans ?_
  refine (runOn_bind_attempt hlint).trans ?_
  cases e with
  | bridge cause => exact absurd rfl he
  | _ => rfl

theorem runOn_fix_incomplete (h : Settings.load [] s.host.environment = .ok settings)
    (hfound : s.host.files.resolve file = .ok found) {outcome : FixOutcome}
    (houtcome : ∀ result, outcome ≠ .complete result)
    (hlint : ((service settings).fixLint (Uri.ofPath found) rule).runOn (configured s verbose) =
      (.ok outcome, s')) :
    (fix file apply rule verbose).runOn s = (.ok .failure, s') := by
  refine (runOn_bind_ok (runOn_prepare h)).trans ?_
  dsimp only
  refine (runOn_bind_ok (runOn_uriOf (s := configured s verbose) hfound)).trans ?_
  refine (runOn_bind_attempt hlint).trans ?_
  cases outcome with
  | complete result => exact absurd rfl (houtcome result)
  | withoutEdits result => rfl
  | refused => rfl

theorem runOn_fix_complete (h : Settings.load [] s.host.environment = .ok settings)
    (hfound : s.host.files.resolve file = .ok found)
    (hlint : ((service settings).fixLint (Uri.ofPath found) rule).runOn (configured s verbose) =
      (.ok (.complete result), s')) :
    (fix file apply rule verbose).runOn s =
      if result.edits.isEmpty then (.ok .success, ((Console.say .ok "No fixes available.").run s').2)
      else if apply then (applyEdits file (Uri.ofPath found) result).runOn s'
      else (.ok .success, ((showEdits file result.edits).run s').2) := by
  refine (runOn_bind_ok (runOn_prepare h)).trans ?_
  dsimp only
  refine (runOn_bind_ok (runOn_uriOf (s := configured s verbose) hfound)).trans ?_
  refine (runOn_bind_attempt hlint).trans ?_
  by_cases hempty : result.edits.isEmpty = true
  · simp [hempty, Except.map]
  by_cases happly : apply = true
  · simp [hempty, happly]
  · simp [hempty, happly, Except.map]

end Stages

/-! ## Applying edits -/

section Apply

variable {uri : String} {file found : Path} {result : FixResult} {text fixed : List Char} {time : Nat}
  {s : State}

theorem ofString_documentOf (uri : String) (text : List Char) (time : Nat) :
    Snapshot.ofString (documentOf uri text time).text = ⟨text⟩ := by
  simp [Snapshot.ofString, documentOf]

/-- A file that cannot be read again as the one that was linted is left as it is. -/
theorem runOn_applyEdits_outdated (huri : Uri.toPath uri = .ok found) (hnul : FileTree.hasNul found = false)
    (h : ∀ text time, s.host.files.textOf? found = some (text, time) → result.isCurrent time = false) :
    (applyEdits file uri result).runOn s = (.ok .findings,
      ((Console.say .warn s!"Fixes for {file.text} are outdated and can't be applied.").run s).2) := by
  cases hread : s.host.files.textOf? found with
  | none => exact (runOn_bind_ok (runOn_readDocument_none huri hnul hread)).trans rfl
  | some document =>
    obtain ⟨text, time⟩ := document
    have hversion : ¬ result.isCurrent (documentOf uri text time).version = true := by
      simp [documentOf, h text time hread]
    refine (runOn_bind_ok (runOn_readDocument huri hread)).trans ?_
    rw [Option.filter_some, if_neg hversion]
    rfl

variable (huri : Uri.toPath uri = .ok found) (h : s.host.files.textOf? found = some (text, time))
  (hversion : result.isCurrent time = true)

include huri h hversion

/-- Edits that cannot be applied leave the file as it is. -/
theorem runOn_applyEdits_refused {e : ApplyError}
    (happly : (Snapshot.mk text).apply result.edits = .error e) :
    (applyEdits file uri result).runOn s = (.ok .failure,
      ((Console.say .fail s!"Failed to apply fixes to {file.text}: {e.message}").run s).2) := by
  have hversion : result.isCurrent (documentOf uri text time).version = true := hversion
  refine (runOn_bind_ok (runOn_readDocument huri h)).trans ?_
  rw [Option.filter_some, if_pos hversion]
  dsimp only
  rw [ofString_documentOf, happly]
  rfl

/-- A text with surrogates that stand alone has no bytes, so nothing is written. -/
theorem runOn_applyEdits_unencodable {fixed : Codes} {fault : Codes.EncodeFault}
    (happly : (Snapshot.mk text).apply result.edits = .ok fixed) (hfault : fixed.encode = .error fault) :
    (applyEdits file uri result).runOn s = (.error (.unencodable fault), s) := by
  have hversion : result.isCurrent (documentOf uri text time).version = true := hversion
  refine (runOn_bind_ok (runOn_readDocument huri h)).trans ?_
  rw [Option.filter_some, if_pos hversion]
  dsimp only
  rw [ofString_documentOf, happly]
  dsimp only
  rw [hfault]
  rfl

theorem runOn_applyEdits_written (happly : (Snapshot.mk text).apply result.edits = .ok (.ofChars fixed))
    {host : Host} (hwrite : s.host.write file (Utf8.encode fixed) = (.ok (), host)) :
    (applyEdits file uri result).runOn s = (.ok .success,
      ((Console.say .ok s!"Applied {result.edits.length} edit(s) to {file.text}.").run { s with host }).2) := by
  have hversion : result.isCurrent (documentOf uri text time).version = true := hversion
  refine (runOn_bind_ok (runOn_readDocument huri h)).trans ?_
  rw [Option.filter_some, if_pos hversion]
  dsimp only
  rw [ofString_documentOf, happly]
  dsimp only
  rw [Codes.encode_ofChars]
  refine (runOn_step_bind (.write file (Utf8.encode fixed)) _ s).trans ?_
  simp only [Query.answer, hwrite]
  rfl

theorem runOn_applyEdits_unwritable (happly : (Snapshot.mk text).apply result.edits = .ok (.ofChars fixed))
    {cause : WriteFault} {host : Host} (hwrite : s.host.write file (Utf8.encode fixed) = (.error cause, host)) :
    (applyEdits file uri result).runOn s = (.error (.unwritable file cause), { s with host }) := by
  have hversion : result.isCurrent (documentOf uri text time).version = true := hversion
  refine (runOn_bind_ok (runOn_readDocument huri h)).trans ?_
  rw [Option.filter_some, if_pos hversion]
  dsimp only
  rw [ofString_documentOf, happly]
  dsimp only
  rw [Codes.encode_ofChars]
  refine (runOn_step_bind (.write file (Utf8.encode fixed)) _ s).trans ?_
  simp only [Query.answer, hwrite]
  rfl

end Apply

end LintBridge.CommandLine
