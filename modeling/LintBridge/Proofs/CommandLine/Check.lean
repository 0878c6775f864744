-- SUMMARY: A check of several files shows what checks of each of them show, and ends with the worst of their ends.
import LintBridge.Proofs.Cache.Replays
import LintBridge.Proofs.CommandLine.Stages

/-!
# Checking several files

The files of one check share a service with its cache. On a host that stays as it is nothing goes from one
file to the next all the same: what a file comes to, and what is shown of it, is the same after any other
files as in a command of its own.
-/

namespace LintBridge.CommandLine

open Attempt

variable {settings : Settings} {h : Host} {s : State} {verbose : Bool}

/-! ## One file -/

theorem replays_say (tone : Console.Tone) (message : String) :
    (Console.say tone message).Replays settings h :=
  Routine.replays_step (fun _ _ => rfl) fun _ => ⟨rfl, rfl⟩

theorem replays_readDocument (uri : String) : (readDocument uri).Replays settings h := by
  have hstep {q : Query} (hanswer : ∀ s, s.host = h → (q.answer s).1 = (q.answer h.fresh).1)
      (hstate : ∀ s, (q.answer s).2 = s) : Replays settings h (Attempt.step q : Attempt LintError q.Answer) :=
    replays_attempt (Routine.replays_step hanswer fun s => by simp only [hstate, and_self])
  refine replays_bind (replays_ofExcept _) fun file => ?_
  refine replays_bind (hstep (fun s hs => hs ▸ rfl) fun _ => rfl) fun content => ?_
  split
  next => exact replays_throw _
  next => exact replays_pure _
  next content =>
    split
    next => exact replays_pure _
    next text _ =>
      refine replays_bind (hstep (fun s hs => hs ▸ rfl) fun _ => rfl) fun time => ?_
      split
      next => exact replays_pure _
      next => exact replays_pure _

theorem replays_uriOf (file : Path) : (uriOf file).Replays settings h := by
  have hresolve : Replays settings h (Attempt.step (.resolve file) : Attempt LintError _) :=
    replays_attempt (Routine.replays_step (fun s hs => hs ▸ rfl) fun _ => ⟨rfl, rfl⟩)
  refine replays_bind hresolve fun found => ?_
  split
  next => exact replays_pure _
  next => exact replays_throw _
  next => exact replays_throw _

theorem replays_checkFile (hstill : h.Still) (file : Path) : (checkFile settings file).Replays settings h := by
  refine replays_bind (replays_uriOf file) fun uri => ?_
  have hrun : ((service settings).runLint uri).Replays settings h :=
    (service settings).replays_runLint hstill uri (replays_readDocument uri) fun message =>
      replays_say .fail message.shown
  refine replays_bind (replays_attempt hrun) fun outcome => ?_
  split
  next diagnostics =>
    refine replays_bind ?_ fun _ => replays_pure _
    unfold showDiagnostics
    split
    next => exact replays_pure _
    next =>
      refine replays_bind (replays_ofExcept _) fun lines => ?_
      exact replays_attempt (Routine.replays_step (fun _ _ => rfl) fun _ => ⟨rfl, rfl⟩)
  next => exact replays_pure _
  next cause =>
    refine replays_bind (replays_attempt ?_) fun _ => replays_pure _
    unfold showStderr
    split
    next =>
      split
      next => exact Routine.replays_pure _
      next => exact replays_say _ _
    next => exact Routine.replays_pure _
  next => exact replays_throw _

/-- What is shown of a file when it is the only one that is checked. -/
def reportOf (settings : Settings) (h : Host) (file : Path) : List Event :=
  (checkFile settings file).shown h.fresh

/-! ## Several files -/

/-- Each file comes to what it comes to alone, and is reported as it is alone. -/
theorem runOn_checkFiles (hstill : h.Still) {verdict : Path → Verdict} {files : List Path}
    (hverdict : ∀ file ∈ files, ((checkFile settings file).runOn h.fresh).1 = .ok (verdict file))
    (hs : s.Coherent settings h) :
    ∃ s', (checkFiles settings files).runOn s = (.ok (files.map verdict), s') ∧
      (checkFiles settings files).shown s = files.flatMap (reportOf settings h) := by
  induction files generalizing s with
  | nil => exact ⟨s, rfl, rfl⟩
  | cons file rest ih =>
    have hhead := hverdict file List.mem_cons_self
    obtain ⟨s₁, hfile, hs₁, hreport⟩ := (replays_checkFile hstill file).runOn_ok hhead hs
    obtain ⟨s₂, hrest, hshown⟩ := ih (fun file hmem => hverdict file (List.mem_cons_of_mem _ hmem)) hs₁
    refine ⟨s₂, (runOn_bind_ok hfile).trans (runOn_bind_ok hrest), ?_⟩
    refine (shown_bind_ok hfile).trans ?_
    rw [shown_bind_ok hrest, hshown, hreport]
    exact congrArg (reportOf settings h file ++ ·) (List.append_nil _)

/-! ## The end -/

/-- The exit status of a check of one file. -/
def Verdict.status : Verdict → Nat
  | .checked 0 => 0
  | .checked (_ + 1) => 1
  | .failed => 2

theorem fst_run_conclude (verdicts : List Verdict) (s : State) :
    ((conclude verdicts).run s).1 =
      if .failed ∈ verdicts then .failure
      else if findingsIn verdicts = 0 then .success else .findings := by
  simp only [conclude, List.contains_iff_mem]
  split
  next => rfl
  next =>
    split
    next => rfl
    next => rfl

theorem status_conclude_cons (verdict : Verdict) (rest : List Verdict) (s : State) :
    ((conclude (verdict :: rest)).run s).1.status = max verdict.status ((conclude rest).run s).1.status := by
  rw [fst_run_conclude, fst_run_conclude]
  cases verdict with
  | failed =>
    have hworst (exit : Exit) : max 2 exit.status = 2 := by cases exit <;> rfl
    rw [if_pos List.mem_cons_self]
    exact (hworst _).symm
  | checked findings =>
    have hmem : Verdict.failed ∈ .checked findings :: rest ↔ .failed ∈ rest := by simp
    by_cases hfailed : .failed ∈ rest
    · rw [if_pos (hmem.2 hfailed), if_pos hfailed]
      cases findings with
      | zero => rfl
      | succ findings => rfl
    · rw [if_neg (hmem.not.2 hfailed), if_neg hfailed]
      cases findings with
      | zero => simp [findingsIn, Verdict.findings, Verdict.status]
      | succ findings =>
        rw [if_neg (by simp [findingsIn, Verdict.findings])]
        split
        next => rfl
        next => rfl

/-- A check ends with the worst of what its files come to. -/
theorem status_conclude (verdicts : List Verdict) (s : State) :
    ((conclude verdicts).run s).1.status = (verdicts.map Verdict.status).foldr max 0 := by
  induction verdicts with
  | nil => rfl
  | cons verdict rest ih => rw [status_conclude_cons, ih, List.map_cons, List.foldr_cons]

theorem shown_conclude (verdicts : List Verdict) (s s' : State) :
    (conclude verdicts).shown s = (conclude verdicts).shown s' := by
  simp only [conclude]
  split
  next => rfl
  next =>
    split
    next => rfl
    next => rfl

/-! ## Checks -/

theorem coherent_configured (verbose : Bool) : (configured h.fresh verbose).Coherent settings h :=
  ⟨rfl, Cache.coherent_empty⟩

theorem shown_prepare (hsettings : Settings.load [] h.environment = .ok settings) (verbose : Bool) :
    (prepare verbose).shown h.fresh = [] := by
  refine (Routine.shown_bind (Routine.step (.configureLog verbose)) _ _).trans ?_
  refine (Routine.shown_bind (Routine.step .environment) _ _).trans ?_
  split
  next => rfl
  next e he => cases he.symm.trans hsettings

/-- Checking the files of a command, once its settings have been loaded, and saying how it has ended. -/
def checkWith (settings : Settings) (files : List Path) : Attempt LintError Exit := do
  let verdicts ← checkFiles settings files
  (conclude verdicts).attempt

theorem runOn_check (hsettings : Settings.load [] h.environment = .ok settings) (files : List Path)
    (verbose : Bool) :
    (check files verbose).runOn h.fresh = (checkWith settings files).runOn (configured h.fresh verbose) :=
  runOn_bind_ok (runOn_prepare hsettings)

theorem shown_check (hsettings : Settings.load [] h.environment = .ok settings) (files : List Path)
    (verbose : Bool) :
    (check files verbose).shown h.fresh = (checkWith settings files).shown (configured h.fresh verbose) := by
  refine (shown_bind_ok (runOn_prepare hsettings)).trans ?_
  rw [shown_attempt, shown_prepare hsettings]
  rfl

/-- A file that is checked alone comes to a verdict, unless the command is left by an error. -/
theorem verdict_of_check (hstill : h.Still) (hsettings : Settings.load [] h.environment = .ok settings)
    {file : Path} {exit : Exit} (hexit : ((check [file] verbose).runOn h.fresh).1 = .ok exit) :
    ∃ verdict, ((checkFile settings file).runOn h.fresh).1 = .ok verdict := by
  cases hverdict : ((checkFile settings file).runOn h.fresh).1 with
  | ok verdict => exact ⟨verdict, rfl⟩
  | error e =>
    have hreplays : (checkFile settings file).Replays settings h := replays_checkFile hstill file
    have hfresh := hreplays.result _ (coherent_configured verbose)
    have hfile : (checkFile settings file).runOn (configured h.fresh verbose) = (.error e, _) :=
      Prod.ext (hfresh.trans hverdict) rfl
    have hcheck : (checkWith settings [file]).runOn (configured h.fresh verbose) = _ :=
      runOn_bind_error (runOn_bind_error hfile)
    rw [runOn_check hsettings, hcheck] at hexit
    cases hexit

theorem check_of_verdicts (hstill : h.Still) (hsettings : Settings.load [] h.environment = .ok settings)
    (files : List Path) (verbose : Bool) {verdict : Path → Verdict}
    (hverdict : ∀ file ∈ files, ((checkFile settings file).runOn h.fresh).1 = .ok (verdict file)) :
    (∃ exit, ((check files verbose).runOn h.fresh).1 = .ok exit ∧
      exit.status = (files.map fun file => (verdict file).status).foldr max 0) ∧
      (check files verbose).shown h.fresh =
        files.flatMap (reportOf settings h) ++ (conclude (files.map verdict)).shown h.fresh := by
  obtain ⟨s', hfiles, hshown⟩ := runOn_checkFiles hstill hverdict (coherent_configured verbose)
  refine ⟨⟨((conclude (files.map verdict)).run s').1, ?_, ?_⟩, ?_⟩
  · rw [runOn_check hsettings, checkWith, runOn_bind_ok hfiles, runOn_attempt]
  · rw [status_conclude, List.map_map]
    rfl
  · rw [shown_check hsettings, checkWith, shown_bind_ok hfiles, hshown, shown_attempt,
      shown_conclude _ s' h.fresh]

/-- Files of which each can be checked alone can be checked together. The check shows of each file what a
check of that file alone shows, in the order of the files, before it says how it has ended; and it ends
with the worst of the exit statuses. -/
theorem check_compositional (hstill : h.Still) (hsettings : Settings.load [] h.environment = .ok settings)
    (files : List Path) (verbose : Bool) (alone : Path → Exit)
    (halone : ∀ file ∈ files, ((check [file] verbose).runOn h.fresh).1 = .ok (alone file)) :
    ∃ verdict : Path → Verdict,
      (∀ file ∈ files, (alone file).status = (verdict file).status ∧
        (check [file] verbose).shown h.fresh =
          reportOf settings h file ++ (conclude [verdict file]).shown h.fresh) ∧
      (check files verbose).shown h.fresh =
        files.flatMap (reportOf settings h) ++ (conclude (files.map verdict)).shown h.fresh ∧
      ∃ exit, ((check files verbose).runOn h.fresh).1 = .ok exit ∧
        exit.status = (files.map fun file => (alone file).status).foldr max 0 := by
  have hverdicts (file : Path) : ∃ verdict, file ∈ files →
      ((checkFile settings file).runOn h.fresh).1 = .ok verdict := by
    by_cases hmem : file ∈ files
    · obtain ⟨verdict, hverdict⟩ := verdict_of_check hstill hsettings (halone file hmem)
      exact ⟨verdict, fun _ => hverdict⟩
    · exact ⟨.failed, fun hmem' => absurd hmem' hmem⟩
  choose verdict hverdict using hverdicts
  have hsingle (file : Path) (hmem : file ∈ files) : (alone file).status = (verdict file).status ∧
      (check [file] verbose).shown h.fresh =
        reportOf settings h file ++ (conclude [verdict file]).shown h.fresh := by
    obtain ⟨⟨exit, hexit, hstatus⟩, hshown⟩ :=
      check_of_verdicts hstill hsettings [file] verbose (by simpa using hverdict file hmem)
    cases hexit.symm.trans (halone file hmem)
    exact ⟨by simpa using hstatus, hshown.trans (congrArg (· ++ _) (List.append_nil _))⟩
  obtain ⟨⟨exit, hexit, hstatus⟩, hshown⟩ := check_of_verdicts hstill hsettings files verbose hverdict
  refine ⟨verdict, hsingle, hshown, exit, hexit, ?_⟩
  rw [hstatus, List.map_congr_left fun file hmem => (hsingle file hmem).1]

/-- A project with two directories. There is a failure in each file of the first, and none in the second. -/
def workshop : Host where
  files := ⟨[(["src"], .directory), (["lib"], .directory),
    (["src", "a.ts"], .file (some (Text.Utf8.encode "x".toList)) 1),
    (["lib", "b.ts"], .file (some (Text.Utf8.encode "y".toList)) 1),
    (["lib", "c.ts"], .file none 1),
    (["tslint.json"], .file (some []) 1), (["node_modules"], .directory),
    (["node_modules", "tslint"], .directory),
    (["node_modules", "tslint", "package.json"], .file (some (Text.Utf8.encode "\x7b\x7d".toList)) 1)], []⟩
  environment := []
  executables := [("node", "/bin/node")]
  replies := fun call =>
    let result :=
      if call.cwd = some ⟨.root, []⟩ then "\x7b\x7d"
      else if call.cwd = some ⟨.root, ["lib"]⟩ then "[]"
      else "[\x7b\"failure\":\"bad\",\"start\":\x7b\"position\":0,\"line\":0,\"character\":0\x7d," ++
        "\"end\":\x7b\"position\":1,\"line\":0,\"character\":1\x7d\x7d]"
    { outcome := .exited 0 (some ("\x7b\"ok\":1,\"result\":" ++ result ++ "\x7d")) none }

/-- How checks of single files of the project end. -/
def workshopEnd (file : Path) : Exit :=
  if file.text = "/src/a.ts" then .findings else if file.text = "/lib/b.ts" then .success else .failure

/-- A file with a failure, checked twice, one without, and one that cannot be read. -/
def workshopFiles : List Path :=
  ["/src/a.ts", "/lib/b.ts", "/lib/c.ts", "/src/a.ts"].map Path.ofString

theorem check_compositional_workshop :
    workshop.Still ∧
      (∀ file ∈ workshopFiles, ((check [file] false).runOn workshop.fresh).1 = .ok (workshopEnd file)) ∧
      ((check workshopFiles false).runOn workshop.fresh).1 = .ok .failure := by
  have hstill : workshop.Still := fun _ => rfl
  have halone : ∀ file ∈ workshopFiles,
      ((check [file] false).runOn workshop.fresh).1 = .ok (workshopEnd file) := by
    intro file hmem
    refine toOption_eq_some_iff.1 ?_
    revert file
    decide +kernel
  refine ⟨hstill, halone, ?_⟩
  obtain ⟨verdict, -, -, exit, hexit, hstatus⟩ :=
    check_compositional hstill rfl workshopFiles false workshopEnd halone
  rw [hexit]
  have hworst : exit.status = 2 := hstatus.trans (by decide +kernel)
  cases exit with
  | failure => rfl
  | _ => cases hworst

end LintBridge.CommandLine
