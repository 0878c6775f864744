-- SUMMARY: What a fix comes to before it looks at its edits, when other programs act between its steps.
import LintBridge.Proofs.CommandLine.Stages
import LintBridge.Proofs.Routine.Amid
import LintBridge.Proofs.Service.Errors

/-!
# The request of a fix

A fix loads its settings, resolves its path, reads the file that the path leads to, and lints the text. What each
of these comes to is decided by the states in which its questions are answered, whatever happens outside between
them. A fix that stops here has not looked at its edits.
-/

namespace LintBridge.CommandLine

open Attempt FileTree
open Relation (ReflTransGen)

variable {outside : State → State → Prop} {s s' : State} {uri : String} {file : Path} {settings : Settings}
  {rule : Option Text.Codes} {verbose : Bool}

/-! ## Readings of a file -/

/-- A reading of a file: its text, in one state, and then its count of changes, in another one. -/
structure Reading where
  opened : State
  text : List Char
  stamped : State
  count : Nat

namespace Reading

def moments (r : Reading) (file : Path) : List Moment :=
  [⟨r.opened, .read file⟩, ⟨r.stamped, .modified file⟩]

/-- The document that a reading gives. -/
def document (r : Reading) (uri : String) : Document := documentOf uri r.text r.count

/-- A reading of a file amid changes from outside. -/
structure Of (r : Reading) (outside : State → State → Prop) (file : Path) : Prop where
  text : ∃ content, r.opened.host.files.read file = .ok content ∧ Text.Utf8.decode? content = some r.text
  between : ReflTransGen outside r.opened r.stamped
  count : r.stamped.host.files.modified file = .ok r.count

variable {r : Reading} {s₁ s₂ : State} {moments : List Moment}

theorem Of.text_eq (h : r.Of outside file) {text : List Char} {count : Nat}
    (htext : r.opened.host.files.textOf? file = some (text, count)) : r.text = text := by
  obtain ⟨content, hread, hdecoded⟩ := h.text
  obtain ⟨place, content', hplace, hnode, hdecoded'⟩ := textOf?_eq_some_iff.1 htext
  cases hread.symm.trans (read_eq_ok_iff.2 ⟨place, count, hplace, hnode⟩)
  exact Option.some.inj (hdecoded.symm.trans hdecoded')

theorem Of.hasNul (h : r.Of outside file) : hasNul file = false := by
  obtain ⟨content, hread, -⟩ := h.text
  cases hnul : FileTree.hasNul file with
  | false => rfl
  | true => cases hread.symm.trans (read_eq_nulCharacter_iff.2 hnul)

/-- A run from one state to another is a reading of the file of a URI. -/
structure IsRun (r : Reading) (outside : State → State → Prop) (uri : String) (file : Path) (s : State)
    (moments : List Moment) (s' : State) : Prop where
  named : Uri.toPath uri = .ok file
  moments : moments = r.moments file
  before : ReflTransGen outside s r.opened
  reading : r.Of outside file
  after : ReflTransGen outside r.stamped s'

/-- What happens outside before and after a reading belongs to it. -/
theorem IsRun.widen (h : r.IsRun outside uri file s₁ moments s₂) (hbefore : ReflTransGen outside s s₁)
    (hafter : ReflTransGen outside s₂ s') : r.IsRun outside uri file s moments s' :=
  { h with before := hbefore.trans h.before, after := h.after.trans hafter }

end Reading

/-- A file gives no document: it cannot be opened, it is not UTF-8, or it cannot be asked for its count. -/
inductive Unread (file : Path) : List Moment → Prop
  | unopened {t : State} {cause : FileError} : t.host.files.read file = .error cause → cause ≠ .nulCharacter →
      Unread file [⟨t, .read file⟩]
  | notUtf8 {t : State} {content : Bytes} : t.host.files.read file = .ok content →
      Text.Utf8.decode? content = none → Unread file [⟨t, .read file⟩]
  | unstamped {t t' : State} {content : Bytes} {cause : FileError} : t.host.files.read file = .ok content →
      (Text.Utf8.decode? content).isSome → t'.host.files.modified file = .error cause →
      Unread file [⟨t, .read file⟩, ⟨t', .modified file⟩]

/-- How the document of a URI is read. -/
inductive Reads (outside : State → State → Prop) (uri : String) (s : State) :
    List Moment → Except LintError (Option Document) → State → Prop
  | misnamed {cause : UriError} {s' : State} : Uri.toPath uri = .error cause →
      Reads outside uri s [] (.error (.uri cause)) s'
  | nul {file : Path} {t s' : State} : Uri.toPath uri = .ok file → hasNul file = true →
      Reads outside uri s [⟨t, .read file⟩] (.error .nulInPath) s'
  | unread {file : Path} {moments : List Moment} {s' : State} : Uri.toPath uri = .ok file → Unread file moments →
      Reads outside uri s moments (.ok none) s'
  | reading {file : Path} {r : Reading} {moments : List Moment} {s' : State} :
      r.IsRun outside uri file s moments s' → Reads outside uri s moments (.ok (some (r.document uri))) s'

variable {moments : List Moment}

theorem amid_fileOf {result : Except LintError Path} (h : (Service.fileOf uri).Amid outside s moments result s') :
    moments = [] ∧ result = (Uri.toPath uri).mapError .uri ∧ ReflTransGen outside s s' := amid_ofExcept h

theorem amid_readDocument {result : Except LintError (Option Document)}
    (h : (readDocument uri).Amid outside s moments result s') : Reads outside uri s moments result s' := by
  rcases amid_bind h with ⟨e, rfl, hfile⟩ | ⟨_, _, file, s₁, rfl, hfile, hopening⟩
  · obtain ⟨rfl, hcause, -⟩ := amid_fileOf hfile
    cases huri : Uri.toPath uri with
    | error cause =>
      rw [huri] at hcause
      cases hcause
      exact .misnamed huri
    | ok file =>
      rw [huri] at hcause
      cases hcause
  obtain ⟨rfl, hfile, hbefore⟩ := amid_fileOf hfile
  have huri := mapError_eq_ok_iff.1 hfile.symm
  rw [List.nil_append]
  obtain ⟨opened, _, rfl, hopen, hdecoding⟩ := amid_bind_step hopening
  split at hdecoding
  next hnul =>
    obtain ⟨rfl, rfl, -⟩ := amid_throw hdecoding
    exact .nul huri (read_eq_nulCharacter_iff.1 hnul)
  next cause hcause hread =>
    obtain ⟨rfl, rfl, -⟩ := amid_pure hdecoding
    exact .unread huri (.unopened hread hcause)
  next content hcontent =>
    split at hdecoding
    next hdecoded =>
      obtain ⟨rfl, rfl, -⟩ := amid_pure hdecoding
      exact .unread huri (.notUtf8 hcontent hdecoded)
    next text htext =>
      obtain ⟨stamped, _, rfl, hstamp, hstamping⟩ := amid_bind_step hdecoding
      split at hstamping
      next cause hcause =>
        obtain ⟨rfl, rfl, -⟩ := amid_pure hstamping
        exact .unread huri (.unstamped hcontent (by rw [htext]; rfl) hcause)
      next count hcount =>
        obtain ⟨rfl, rfl, hafter⟩ := amid_pure hstamping
        have hreading : Reading.Of ⟨opened, text, stamped, count⟩ outside file :=
          ⟨⟨content, hcontent, htext⟩, hstamp, hcount⟩
        exact .reading ⟨huri, rfl, hbefore.trans hopen, hreading, hafter⟩

/-! ## Lints -/

/-- How the lint of the document of a URI fails. -/
inductive Unlinted (outside : State → State → Prop) (settings : Settings) (uri : String)
    (rule : Option Text.Codes) : List Moment → LintError → Prop
  | misnamed {cause : UriError} : Uri.toPath uri = .error cause → Unlinted outside settings uri rule [] (.uri cause)
  | nul {file : Path} {t : State} : Uri.toPath uri = .ok file → hasNul file = true →
      Unlinted outside settings uri rule [⟨t, .read file⟩] .nulInPath
  | unread {file : Path} {moments : List Moment} : Uri.toPath uri = .ok file → Unread file moments →
      Unlinted outside settings uri rule moments (.notOpen uri)
  /-- Library or configuration cannot be found, or the library fails. -/
  | failed {file : Path} {r : Reading} {lint : List Moment} {e : LintError} {s' : State} :
      Uri.toPath uri = .ok file → r.Of outside file →
      ((service settings).failuresOf file (r.document uri)).Amid outside r.stamped lint (.error e) s' →
      Unlinted outside settings uri rule (r.moments file ++ lint) e
  | misplaced {file : Path} {r : Reading} {lint : List Moment} {failures : List Failure}
      {cause : Text.PositionError} {s' : State} :
      Uri.toPath uri = .ok file → r.Of outside file →
      ((service settings).failuresOf file (r.document uri)).Amid outside r.stamped lint (.ok failures) s' →
      FixResult.ofFailures ⟨r.text⟩ r.count rule failures = .error cause →
      Unlinted outside settings uri rule (r.moments file ++ lint) (.position cause)

/-- How the document of a URI is linted, and its failures have edits. -/
inductive Lints (outside : State → State → Prop) (settings : Settings) (uri : String) (rule : Option Text.Codes) :
    List Moment → Path → FixResult → State → Prop
  | linted {file : Path} {r : Reading} {lint : List Moment} {failures : List Failure} {result : FixResult}
      {s' : State} : Uri.toPath uri = .ok file → r.Of outside file →
      ((service settings).failuresOf file (r.document uri)).Amid outside r.stamped lint (.ok failures) s' →
      FixResult.ofFailures ⟨r.text⟩ r.count rule failures = .ok result →
      Lints outside settings uri rule (r.moments file ++ lint) file result s'

theorem amid_document (rule : Option Text.Codes) {result : Except LintError Document}
    (h : ((service settings).document uri).Amid outside s moments result s') :
    (∃ e, result = .error e ∧ Unlinted outside settings uri rule moments e) ∨
      ∃ (file : Path) (r : Reading), r.IsRun outside uri file s moments s' ∧ result = .ok (r.document uri) := by
  rcases amid_bind h with ⟨e, rfl, hread⟩ | ⟨_, _, found, s₁, rfl, hread, hopened⟩
  · have hread : (readDocument uri).Amid outside s moments (.error e) s' := hread
    cases amid_readDocument hread with
    | misnamed huri => exact .inl ⟨_, rfl, .misnamed huri⟩
    | nul huri hnul => exact .inl ⟨_, rfl, .nul huri hnul⟩
  · have hread : (readDocument uri).Amid outside s _ (.ok found) s₁ := hread
    cases amid_readDocument hread with
    | unread huri hunread =>
      obtain ⟨rfl, rfl, -⟩ := amid_throw hopened
      rw [List.append_nil]
      exact .inl ⟨_, rfl, .unread huri hunread⟩
    | reading hrun =>
      obtain ⟨rfl, rfl, hafter⟩ := amid_pure hopened
      rw [List.append_nil]
      exact .inr ⟨_, _, hrun.widen .refl hafter, rfl⟩

/-- The target of a URI is the document that has been read. -/
theorem amid_target (rule : Option Text.Codes) {result : Except LintError (Path × Document)}
    (h : ((service settings).target uri).Amid outside s moments result s') :
    (∃ e, result = .error e ∧ Unlinted outside settings uri rule moments e) ∨
      ∃ (file : Path) (r : Reading), r.IsRun outside uri file s moments s' ∧ result = .ok (file, r.document uri) := by
  rcases amid_bind h with ⟨e, rfl, hfile⟩ | ⟨_, _, file, s₁, rfl, hfile, hdocument⟩
  · obtain ⟨rfl, hcause, -⟩ := amid_fileOf hfile
    cases huri : Uri.toPath uri with
    | error cause =>
      rw [huri] at hcause
      cases hcause
      exact .inl ⟨_, rfl, .misnamed huri⟩
    | ok file =>
      rw [huri] at hcause
      cases hcause
  obtain ⟨rfl, hfile, hbefore⟩ := amid_fileOf hfile
  have huri := mapError_eq_ok_iff.1 hfile.symm
  rw [List.nil_append]
  rcases amid_bind hdocument with ⟨e, rfl, hread⟩ | ⟨_, _, document, s₂, rfl, hread, hend⟩
  · obtain ⟨_, he, hunlinted⟩ := (amid_document rule hread).resolve_right (by rintro ⟨file, r, -, ⟨⟩⟩)
    cases he
    exact .inl ⟨e, rfl, hunlinted⟩
  · obtain ⟨rfl, rfl, hafter⟩ := amid_pure hend
    obtain ⟨file', r, hrun, hdocument⟩ := (amid_document rule hread).resolve_left (by rintro ⟨e, ⟨⟩, -⟩)
    cases hdocument
    cases huri.symm.trans hrun.named
    rw [List.append_nil]
    exact .inr ⟨file, r, hrun.widen hbefore hafter, rfl⟩

/-- What a fix request comes to. An error that the service does not answer is let out, and so is a failure of the
library. -/
inductive Answers (outside : State → State → Prop) (settings : Settings) (uri : String) (rule : Option Text.Codes) :
    List Moment → Except LintError FixOutcome → State → Prop
  | complete {moments : List Moment} {file : Path} {fix : FixResult} {s' : State} :
      Lints outside settings uri rule moments file fix s' →
      Answers outside settings uri rule moments (.ok (.complete fix)) s'
  | raised {lint shown : List Moment} {e : LintError} {s' : State} : Unlinted outside settings uri rule lint e →
      e.treatment = .passed ∨ e.treatment = .fatal →
      Answers outside settings uri rule (lint ++ shown) (.error e) s'
  | incomplete {lint shown : List Moment} {e : LintError} {outcome : FixOutcome} {s' : State} :
      Unlinted outside settings uri rule lint e → e.treatment ≠ .passed → (∀ fix, outcome ≠ .complete fix) →
      Answers outside settings uri rule (lint ++ shown) (.ok outcome) s'

theorem amid_fixDocument {r : Reading} {s₁ : State} {reading : List Moment} {result : Except LintError FixOutcome}
    (hrun : r.IsRun outside uri file s reading s₁)
    (h : ((service settings).fixDocument file (r.document uri) rule).Amid outside s₁ moments result s') :
    Answers outside settings uri rule (reading ++ moments) result s' := by
  obtain ⟨lint, _, failures, s₂, rfl, hlint, hresult⟩ := amid_bind_attempt h
  have hlint := Routine.Amid.head hrun.after hlint
  rw [hrun.moments, ← List.append_assoc]
  cases failures with
  | error e =>
    have hunlinted : Unlinted outside settings uri rule (r.moments file ++ lint) e :=
      .failed hrun.named hrun.reading hlint
    dsimp only at hresult
    split at hresult
    next he =>
      obtain ⟨_, _, _, _, -, -, hraised⟩ := amid_bind_attempt hresult
      obtain ⟨-, rfl, -⟩ := amid_throw hraised
      exact .raised hunlinted (.inr he)
    next he =>
      cases amid_attempt_pure hresult
      exact .incomplete hunlinted (by rw [he]; nofun) nofun
    next he =>
      cases amid_attempt_pure hresult
      exact .incomplete hunlinted (by rw [he]; nofun) nofun
    next he =>
      obtain ⟨-, rfl, -⟩ := amid_throw hresult
      exact .raised hunlinted (.inl he)
  | ok failures =>
    rw [Reading.document, ofString_documentOf] at hresult
    change Attempt.Amid outside (ofExcept ((FixResult.ofFailures ⟨r.text⟩ r.count rule failures).mapError
      LintError.position) >>= fun fix => pure (.complete fix)) s₂ _ result s' at hresult
    cases hedits : FixResult.ofFailures ⟨r.text⟩ r.count rule failures with
    | error cause =>
      rw [hedits] at hresult
      obtain ⟨-, rfl, -⟩ := amid_throw (e := LintError.position cause) hresult
      exact .raised (.misplaced hrun.named hrun.reading hlint hedits) (.inl rfl)
    | ok fix =>
      rw [hedits] at hresult
      obtain ⟨rfl, rfl, hafter⟩ := amid_pure (a := FixOutcome.complete fix) hresult
      rw [List.append_nil]
      exact .complete (.linted hrun.named hrun.reading (hlint.tail hafter) hedits)

theorem amid_fixLint {result : Except LintError FixOutcome}
    (h : ((service settings).fixLint uri rule).Amid outside s moments result s') :
    Answers outside settings uri rule moments result s' := by
  obtain ⟨reading, _, target, s₁, rfl, htarget, hfix⟩ := amid_bind_attempt h
  rcases amid_target rule htarget with ⟨e, rfl, hunlinted⟩ | ⟨file, r, hrun, rfl⟩
  · dsimp only at hfix
    split at hfix
    next he =>
      cases amid_attempt_pure hfix
      exact .incomplete hunlinted (by rw [he]; nofun) nofun
    next he =>
      cases amid_attempt_pure hfix
      exact .incomplete hunlinted (by rw [he]; nofun) nofun
    next hforeign hunresolved =>
      obtain ⟨-, rfl, -⟩ := amid_throw hfix
      refine .raised hunlinted ?_
      cases he : e.treatment with
      | foreign => exact absurd he hforeign
      | unresolved => exact absurd he hunresolved
      | fatal => exact .inr rfl
      | passed => exact .inl rfl
  · exact amid_fixDocument hrun hfix

/-- What happens outside after a lint belongs to it. -/
theorem Lints.tail {fix : FixResult} {s₁ : State} (h : Lints outside settings uri rule moments file fix s₁)
    (hafter : ReflTransGen outside s₁ s') : Lints outside settings uri rule moments file fix s' := by
  cases h with
  | linted hnamed hreading hlint hedits => exact .linted hnamed hreading (hlint.tail hafter) hedits

/-! ## Requests -/

/-- What the request of a fix comes to. -/
inductive Requested where
  /-- The command has ended. -/
  | ended (exit : Exit)
  /-- There are edits, or none, for the document of a URI. -/
  | edits (uri : String) (result : FixResult)

/-- Load the settings of a fix, and lint its file. -/
def requested (file : Path) (rule : Option Text.Codes) (verbose : Bool) : Attempt LintError Requested := do
  match ← (prepare verbose).attempt with
  | none => return .ended .failure
  | some settings =>
    let uri ← uriOf file
    match ← ((service settings).fixLint uri rule).run.attempt with
    | .error (.bridge _) => return .ended .failure
    | .error e => throw e
    | .ok (.complete result) => return .edits uri result
    | .ok _ => return .ended .failure

/-- A fix has loaded its settings and resolved its path. -/
inductive Opens (file : Path) (verbose : Bool) : List Moment → Settings → Path → Prop
  | opened {t₁ t₂ t₃ : State} {settings : Settings} {found : Path} :
      Settings.load [] t₂.host.environment = .ok settings → t₃.host.files.resolve file = .ok found →
      Opens file verbose [⟨t₁, .configureLog verbose⟩, ⟨t₂, .environment⟩, ⟨t₃, .resolve file⟩] settings found

/-- The error of a path that cannot be resolved. -/
def resolveError : ResolveError → LintError
  | .nulCharacter => .nulInPath
  | .loop found => .linkLoop found

/-- A fix ends before it looks at its edits, with an exit status or an error. -/
inductive Stops (outside : State → State → Prop) (file : Path) (rule : Option Text.Codes) (verbose : Bool) :
    List Moment → Except LintError Nat → Prop
  | badSettings {t₁ t₂ : State} {e : SettingsError} {shown : List Moment} :
      Settings.load [] t₂.host.environment = .error e →
      Stops outside file rule verbose (⟨t₁, .configureLog verbose⟩ :: ⟨t₂, .environment⟩ :: shown) (.ok 2)
  | unresolved {t₁ t₂ t₃ : State} {settings : Settings} {cause : ResolveError} :
      Settings.load [] t₂.host.environment = .ok settings → t₃.host.files.resolve file = .error cause →
      Stops outside file rule verbose
        [⟨t₁, .configureLog verbose⟩, ⟨t₂, .environment⟩, ⟨t₃, .resolve file⟩] (.error (resolveError cause))
  | unlinted {opening lint shown : List Moment} {settings : Settings} {found : Path} {e : LintError} :
      Opens file verbose opening settings found →
      Unlinted outside settings (Uri.ofPath found) rule lint e →
      Stops outside file rule verbose (opening ++ lint ++ shown)
        (if e.treatment = .passed then .error e else .ok 2)

/-- A fix has found the edits for its file. -/
inductive Finds (outside : State → State → Prop) (file : Path) (rule : Option Text.Codes) (verbose : Bool) :
    List Moment → String → Path → FixResult → State → Prop
  | found {opening lint : List Moment} {settings : Settings} {found named : Path} {result : FixResult} {s' : State} :
      Opens file verbose opening settings found →
      Lints outside settings (Uri.ofPath found) rule lint named result s' →
      Finds outside file rule verbose (opening ++ lint) (Uri.ofPath found) named result s'

/-- The file that has been linted is that of its URI, and its path holds no NUL character. -/
theorem Finds.named {named : Path} {result : FixResult} {moments : List Moment}
    (h : Finds outside file rule verbose moments uri named result s) :
    Uri.toPath uri = .ok named ∧ hasNul named = false := by
  obtain ⟨-, ⟨hnamed, hreading, -⟩⟩ := h
  exact ⟨hnamed, hreading.hasNul⟩

theorem amid_prepare {found : Option Settings} (h : (prepare verbose).Amid outside s moments found s') :
    ∃ t₁ t₂ shown, moments = ⟨t₁, .configureLog verbose⟩ :: ⟨t₂, .environment⟩ :: shown ∧
      ((∃ e, Settings.load [] t₂.host.environment = .error e ∧ found = none) ∨
        ∃ settings, Settings.load [] t₂.host.environment = .ok settings ∧ found = some settings ∧ shown = []) := by
  obtain ⟨_, _, _, s₁, rfl, hlog, hrest⟩ := Routine.amid_bind h
  obtain ⟨t₁, rfl, -, -, -⟩ := Routine.amid_step hlog
  obtain ⟨_, shown, environment, s₂, rfl, henvironment, hfound⟩ := Routine.amid_bind hrest
  obtain ⟨t₂, rfl, rfl, -, -⟩ := Routine.amid_step henvironment
  refine ⟨t₁, t₂, shown, rfl, ?_⟩
  simp only [Query.answer] at hfound
  cases hload : Settings.load [] t₂.host.environment with
  | ok settings =>
    rw [hload] at hfound
    obtain ⟨rfl, rfl, -⟩ := Routine.amid_pure hfound
    exact .inr ⟨settings, rfl, rfl, rfl⟩
  | error e =>
    rw [hload] at hfound
    obtain ⟨_, _, _, _, -, -, hend⟩ := Routine.amid_bind hfound
    obtain ⟨-, rfl, -⟩ := Routine.amid_pure hend
    exact .inl ⟨e, rfl, rfl⟩

theorem amid_uriOf {result : Except LintError String} (h : (uriOf file).Amid outside s moments result s') :
    ∃ t, moments = [⟨t, .resolve file⟩] ∧
      ((∃ cause, t.host.files.resolve file = .error cause ∧ result = .error (resolveError cause)) ∨
        ∃ found, t.host.files.resolve file = .ok found ∧ result = .ok (Uri.ofPath found)) := by
  obtain ⟨t, rest, rfl, -, hfound⟩ := amid_bind_step h
  refine ⟨t, ?_⟩
  split at hfound
  next found hresolve =>
    obtain ⟨rfl, rfl, -⟩ := amid_pure hfound
    exact ⟨rfl, .inr ⟨found, hresolve, rfl⟩⟩
  next hcause =>
    obtain ⟨rfl, rfl, -⟩ := amid_throw hfound
    exact ⟨rfl, .inl ⟨_, hcause, rfl⟩⟩
  next hcause =>
    obtain ⟨rfl, rfl, -⟩ := amid_throw hfound
    exact ⟨rfl, .inl ⟨_, hcause, rfl⟩⟩

/-- The request of a fix stops with an end of the command, or has found the edits. -/
theorem amid_requested {result : Except LintError Requested}
    (h : (requested file rule verbose).Amid outside s moments result s') :
    (∃ ended : Except LintError Exit, result = ended.map .ended ∧
        Stops outside file rule verbose moments (ended.map Exit.status)) ∨
      ∃ uri named fix, result = .ok (.edits uri fix) ∧ Finds outside file rule verbose moments uri named fix s' := by
  obtain ⟨_, _, found, s₁, rfl, hprepare, hsettings⟩ := amid_bind_attempt h
  obtain ⟨t₁, t₂, shown, rfl, ⟨e, hload, rfl⟩ | ⟨settings, hload, rfl, rfl⟩⟩ := amid_prepare hprepare
  · obtain ⟨rfl, rfl, -⟩ := amid_pure hsettings
    rw [List.append_nil]
    exact .inl ⟨.ok .failure, rfl, .badSettings hload⟩
  rcases amid_bind hsettings with ⟨e, rfl, huri⟩ | ⟨_, _, uri, s₂, rfl, huri, hrequest⟩
  · obtain ⟨t₃, rfl, ⟨cause, hcause, ⟨⟩⟩ | ⟨found, -, ⟨⟩⟩⟩ := amid_uriOf huri
    exact .inl ⟨.error (resolveError cause), rfl, .unresolved hload hcause⟩
  obtain ⟨t₃, rfl, ⟨_, -, ⟨⟩⟩ | ⟨found, hfound, ⟨⟩⟩⟩ := amid_uriOf huri
  have hopens : Opens file verbose (⟨t₁, .configureLog verbose⟩ :: _) settings found := .opened hload hfound
  obtain ⟨_, after, outcome, s₃, rfl, hlint, hend⟩ := amid_bind_attempt hrequest
  cases amid_fixLint hlint with
  | complete hlints =>
    obtain ⟨rfl, rfl, hafter⟩ := amid_pure hend
    have hfinds := Finds.found hopens (hlints.tail hafter)
    rw [List.append_nil]
    exact .inr ⟨_, _, _, rfl, hfinds⟩
  | @raised lint shown e _ hunlinted htreatment =>
    have hstops : Stops outside file rule verbose (_ ++ lint ++ shown) _ := .unlinted hopens hunlinted
    rcases htreatment with hpassed | hfatal
    · have hraised : (throw e : Attempt LintError Requested).Amid outside s₃ after result s' := by
        cases e with
        | bridge cause => cases hpassed
        | _ => exact hend
      obtain ⟨rfl, rfl, -⟩ := amid_throw hraised
      rw [if_pos hpassed] at hstops
      rw [List.append_nil]
      exact .inl ⟨.error e, rfl, hstops⟩
    · obtain ⟨cause, rfl⟩ := LintError.treatment_eq_fatal_iff.1 hfatal
      obtain ⟨rfl, rfl, -⟩ := amid_pure hend
      rw [List.append_nil]
      exact .inl ⟨.ok .failure, rfl, hstops⟩
  | @incomplete lint shown e outcome _ hunlinted htreatment hincomplete =>
    have hended : (pure (.ended .failure) : Attempt LintError Requested).Amid outside s₃ after result s' := by
      cases outcome with
      | complete fix => exact absurd rfl (hincomplete fix)
      | _ => exact hend
    obtain ⟨rfl, rfl, -⟩ := amid_pure hended
    have hstops : Stops outside file rule verbose (_ ++ lint ++ shown) _ := .unlinted hopens hunlinted
    rw [if_neg htreatment] at hstops
    rw [List.append_nil]
    exact .inl ⟨.ok .failure, rfl, hstops⟩

/-- What follows the request of a fix ends with it, or goes on with the edits that have been found. -/
theorem amid_requested_bind {α : Type} {next : Requested → Attempt LintError α} {last : Exit → α}
    {result : Except LintError α} (h : (requested file rule verbose >>= next).Amid outside s moments result s')
    (hlast : ∀ exit, next (.ended exit) = pure (last exit)) :
    (∃ ended : Except LintError Exit, result = ended.map last ∧
        Stops outside file rule verbose moments (ended.map Exit.status)) ∨
      ∃ before after uri named fix s₁, moments = before ++ after ∧
        Finds outside file rule verbose before uri named fix s₁ ∧
        (next (.edits uri fix)).Amid outside s₁ after result s' := by
  rcases amid_bind h with ⟨e, rfl, hrequest⟩ | ⟨before, after, found, s₁, rfl, hrequest, hnext⟩
  · rcases amid_requested hrequest with ⟨ended, hended, hstops⟩ | ⟨_, _, _, ⟨⟩, -⟩
    cases ended <;> cases hended
    exact .inl ⟨.error e, rfl, hstops⟩
  rcases amid_requested hrequest with ⟨ended, hended, hstops⟩ | ⟨uri, named, fix, ⟨⟩, hfinds⟩
  · cases ended <;> cases hended
    rw [hlast] at hnext
    obtain ⟨rfl, rfl, -⟩ := amid_pure hnext
    rw [List.append_nil]
    exact .inl ⟨.ok _, rfl, hstops⟩
  · exact .inr ⟨before, after, uri, named, fix, s₁, rfl, hfinds, hnext⟩

end LintBridge.CommandLine
