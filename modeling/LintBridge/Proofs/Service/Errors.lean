-- SUMMARY: The errors that a lint raises, and those among them that the service has no answer for.
import LintBridge.Proofs.Routine.RunOn
import LintBridge.Service

/-!
# Errors of a lint

A lint fails because library or configuration cannot be found, because the library fails, or in one of
six other ways: a place before the text is reported, a manifest is not UTF-8 or goes beyond a limit, its path
cannot be opened at all, the system refuses to look a path up, or it cannot wait so long as a lint run may take.
The service answers only the former.
-/

namespace LintBridge

/-- An error of a lint that the service has no answer for. -/
inductive LintError.Stray : LintError → Prop
  | placeRefused (report : Report) : Stray (.placeRefused report)
  | notUtf8 : Stray .notUtf8
  | beyondLimit (limit : Json.Limit) : Stray (.beyondLimit limit)
  | nulInPath : Stray .nulInPath
  | unsearchable (file : Path) (cause : FileError) : Stray (.unsearchable file cause)
  | unwaitable (reason : String) : Stray (.unwaitable reason)

/-- The errors that a lint raises. -/
inductive LintError.OfLint : LintError → Prop
  | bridge (cause : BridgeError) : OfLint (.bridge cause)
  | noLibrary (package : String) (file : Path) : OfLint (.noLibrary package file)
  | noConfiguration (filename : String) (file : Path) : OfLint (.noConfiguration filename file)
  | stray {e : LintError} : e.Stray → OfLint e

/-- The errors that a call of the library raises. -/
inductive LintError.OfBridge : LintError → Prop
  | bridge (cause : BridgeError) : OfBridge (.bridge cause)
  | stray {e : LintError} : e.Stray → OfBridge e

theorem LintError.OfBridge.ofLint {e : LintError} (h : e.OfBridge) : e.OfLint := by
  cases h with
  | bridge cause => exact .bridge cause
  | stray hstray => exact .stray hstray

/-- Only a failure of the library fails a request that is answered. -/
theorem LintError.treatment_eq_fatal_iff {e : LintError} :
    e.treatment = .fatal ↔ ∃ cause, e = .bridge cause := by
  constructor
  · intro h
    cases e with
    | bridge cause => exact ⟨cause, rfl⟩
    | uri cause => cases cause <;> cases h
    | _ => cases h
  · rintro ⟨cause, rfl⟩
    rfl

theorem LintError.Stray.treatment {e : LintError} (h : e.Stray) : e.treatment = .passed := by
  cases h <;> rfl

open Attempt LintError

/-! ## The library -/

namespace Library

theorem strays_isFile {file p : Path} : (isFile (.unsearchable file) p).Raises Stray := by
  refine raises_bind (raises_step _) fun found => ?_
  cases found with
  | ok found => exact raises_pure _
  | error cause => exact raises_throw (.unsearchable file cause)

theorem strays_packageIn (package : String) (modules : Path) : (packageIn package modules).Raises Stray := by
  refine raises_bind strays_isFile fun found => ?_
  split
  next => exact raises_bind (raises_step _) fun _ => raises_pure _
  next => exact raises_pure _

theorem strays_searchDirectories (package : String) (directories : List Path) :
    (searchDirectories package directories).Raises Stray := by
  induction directories with
  | nil => exact raises_pure _
  | cons directory rest ih =>
    unfold searchDirectories
    split
    next => exact ih
    next =>
      refine raises_bind (strays_packageIn _ _) fun found => ?_
      cases found with
      | none => exact ih
      | some found => exact raises_pure _

theorem strays_ask (manager : String) (args : List String) : (ask manager args).Raises Stray := by
  refine raises_bind (raises_step _) fun env => ?_
  refine raises_bind (raises_attempt _) fun result => ?_
  split
  next => exact raises_pure _
  next reason => exact raises_throw (.unwaitable reason)
  next => exact raises_bind (raises_attempt _) fun _ => raises_pure _

theorem strays_askNpm : askNpm.Raises Stray := by
  refine raises_bind (strays_ask _ _) fun root => ?_
  cases root with
  | some root => exact raises_pure _
  | none =>
    refine raises_bind (strays_ask _ _) fun base => ?_
    cases base with
    | none => exact raises_pure _
    | some base => exact raises_pure _

theorem strays_askYarn : askYarn.Raises Stray := by
  refine raises_bind (strays_ask _ _) fun base => ?_
  cases base with
  | none => exact raises_pure _
  | some base => exact raises_pure _

theorem strays_searchGlobal (package : String) (source : Source) {question : Attempt LintError (Option Path)}
    (h : question.Raises Stray) : (searchGlobal package source question).Raises Stray := by
  refine raises_bind ?_ fun root => ?_
  · refine raises_bind (raises_step _) fun known => ?_
    cases known with
    | some known => exact raises_pure _
    | none => exact raises_bind h fun root => raises_bind (raises_step _) fun _ => raises_pure _
  · cases root with
    | none => exact raises_pure _
    | some root => exact strays_packageIn _ _

/-- The search ends with a stray error, or with an answer. -/
theorem strays_searchSources (settings : Settings) (directory : Path) (sources : List Source) :
    (searchSources settings directory sources).Raises Stray := by
  induction sources with
  | nil => exact raises_pure _
  | cons source rest ih =>
    refine raises_bind ?_ fun found => ?_
    · cases source with
      | project => exact strays_searchDirectories _ _
      | npm => exact strays_searchGlobal _ _ strays_askNpm
      | yarn => exact strays_searchGlobal _ _ strays_askYarn
    · cases found with
      | some found => exact raises_bind (raises_attempt _) fun _ => raises_pure _
      | none => exact raises_bind (raises_attempt _) fun _ => ih

theorem raises_locate (settings : Settings) (file : Path) : (locate settings file).Raises OfLint := by
  refine raises_bind (fun s e h => .stray (strays_searchSources _ _ _ s e h)) fun found => ?_
  cases found with
  | none => exact raises_throw (.noLibrary ..)
  | some found => exact raises_pure _

theorem stray_of_manifestOf {depth : Nat} {file : Path} {content : Except FileError Bytes} {e : LintError}
    (h : manifestOf depth file content = .error e) : e.Stray := by
  unfold manifestOf at h
  split at h
  next => cases h; exact .nulInPath
  next => cases h
  next =>
    split at h
    next => cases h; exact .notUtf8
    next =>
      unfold manifestOfText at h
      split at h
      next => cases h
      next => cases h
      next => cases h
      next => cases h; exact .beyondLimit _

theorem strays_readManifest (depth : Nat) (directory : Path) : (readManifest depth directory).Raises Stray := by
  refine raises_bind (raises_step _) fun content => ?_
  refine raises_bind (raises_ofExcept fun e h => stray_of_manifestOf h) fun manifest => ?_
  cases manifest with
  | ok members => exact raises_pure _
  | error fault => exact raises_bind (raises_attempt _) fun _ => raises_pure _

/-- A package that is there fails to load in stray ways only. -/
theorem strays_load (package : String) (directory : Path) (source : Source) :
    (load package directory source).Raises Stray := by
  refine raises_bind (raises_step _) fun platform => ?_
  refine raises_bind (strays_readManifest _ directory) fun manifest => ?_
  refine raises_bind (raises_ofExcept fun e h => ?_) fun handle => ?_
  · cases hhandle : Handle.ofManifest platform.caseRule directory source manifest with
    | ok handle => rw [hhandle] at h; cases h
    | error cause => rw [hhandle] at h; cases h; exact .beyondLimit _
  · exact raises_bind (raises_attempt _) fun _ => raises_pure _

theorem raises_load (package : String) (directory : Path) (source : Source) :
    (load package directory source).Raises OfLint :=
  fun s e h => .stray (strays_load package directory source s e h)

end Library

/-! ## The bridge and the configuration -/

namespace Bridge

theorem ofBridge_of_resultOf {depth : Nat} {package : String} {completed : Command.Completed} {e : LintError}
    (h : resultOf depth package completed = .error e) : e.OfBridge := by
  unfold resultOf at h
  split at h
  next => cases h; exact .bridge _
  next => cases h; exact .stray (.beyondLimit _)
  next =>
    split at h
    next => cases h
    next => cases h; exact .bridge _
  next => cases h; exact .bridge _

theorem ofBridge_failureOf (package : String) (e : Command.RunError) : (failureOf package e).OfBridge := by
  cases e with
  | unwaitable reason => exact .stray (.unwaitable reason)
  | _ => exact .bridge _

theorem raises_exchangeWith (settings : Settings) (handle : Library.Handle) (action : Action)
    (details : Json.Members) (cwd : Path) :
    (exchangeWith settings handle action details cwd).Raises OfBridge := by
  refine raises_bind (raises_attempt _) fun _ => ?_
  refine raises_bind (raises_step _) fun platform => ?_
  refine raises_bind (raises_mapError fun e => ofBridge_failureOf _ e) fun completed => ?_
  exact raises_ofExcept fun e h => ofBridge_of_resultOf h

theorem raises_lint (settings : Settings) (handle : Library.Handle) (job : LintJob) :
    (lint settings handle job).Raises OfBridge := by
  refine raises_bind (raises_exchangeWith _ _ _ _ _) fun result => raises_ofExcept fun e h => ?_
  cases hfailures : parseFailures result with
  | ok failures => rw [hfailures] at h; cases h
  | error cause =>
    rw [hfailures] at h
    cases h
    cases cause with
    | positionRefused report => exact .stray (.placeRefused report)
    | _ => exact .bridge _

theorem raises_loadConfiguration (settings : Settings) (handle : Library.Handle) (file : Path) :
    (loadConfiguration settings handle file).Raises OfBridge := by
  refine raises_bind (raises_exchangeWith _ _ _ _ _) fun result => ?_
  refine raises_bind (raises_ofExcept fun e h => ?_) fun data => raises_pure _
  cases hrules : rulesOf result with
  | ok data => rw [hrules] at h; cases h
  | error cause => rw [hrules] at h; cases h; exact .bridge _

end Bridge

namespace Configuration

theorem strays_searchDirectories (filename : String) (directories : List Path) :
    (searchDirectories filename directories).Raises Stray := by
  induction directories with
  | nil => exact raises_pure _
  | cons directory rest ih =>
    refine raises_bind Library.strays_isFile fun found => ?_
    split
    next => exact raises_pure _
    next => exact ih

theorem strays_find (settings : Settings) (file : Path) : (find settings file).Raises Stray := by
  refine raises_bind (strays_searchDirectories _ _) fun found => ?_
  cases found with
  | none => exact raises_pure _
  | some found => exact raises_bind (raises_attempt _) fun _ => raises_pure _

theorem raises_resolve (settings : Settings) (handle : Library.Handle) (file : Path) :
    (resolve settings handle file).Raises OfLint := by
  refine raises_bind (fun s e h => .stray (strays_find _ _ s e h)) fun found => ?_
  cases found with
  | none => exact raises_throw (.noConfiguration ..)
  | some found => exact fun s e h => (Bridge.raises_loadConfiguration _ _ _ s e h).ofLint

end Configuration

/-! ## Look-ups through the cache, and the lint -/

theorem raises_libraryFor (settings : Settings) (file : Path) : (libraryFor settings file).Raises OfLint := by
  refine raises_bind (raises_step _) fun known => ?_
  cases known with
  | some known => exact raises_pure _
  | none =>
    refine raises_bind (Library.raises_locate _ _) fun (directory, source) => ?_
    refine raises_bind ?_ fun adapter => raises_bind (raises_step _) fun _ => raises_pure _
    refine raises_bind (raises_step _) fun known => ?_
    cases known with
    | some known => exact raises_pure _
    | none => exact raises_bind (Library.raises_load _ _ _) fun _ => raises_step _

theorem raises_configurationFor (settings : Settings) (file : Path) (adapter : Library.Adapter) :
    (configurationFor settings file adapter).Raises OfLint := by
  refine raises_bind (raises_step _) fun known => ?_
  cases known with
  | some known => exact raises_pure _
  | none => exact raises_bind (Configuration.raises_resolve _ _ _) fun _ => raises_step _

/-- A lint raises no error but those of one. -/
theorem Service.raises_failuresOf (s : Service) (file : Path) (document : Document) :
    (s.failuresOf file document).Raises OfLint := by
  refine raises_bind (raises_libraryFor _ _) fun adapter => ?_
  refine raises_bind (raises_configurationFor _ _ _) fun loaded => ?_
  refine raises_bind (fun s e h => (Bridge.raises_lint _ _ _ s e h).ofLint) fun failures => ?_
  exact raises_bind (raises_attempt _) fun _ => raises_pure _

end LintBridge
