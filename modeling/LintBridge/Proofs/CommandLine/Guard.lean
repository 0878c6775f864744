-- SUMMARY: Which text a fix applies edits to when other programs write files while it runs.
import LintBridge.Proofs.CommandLine.Fix
import LintBridge.Proofs.CommandLine.Request
import LintBridge.Proofs.Fix
import LintBridge.Proofs.Routine.Lint

/-!
# The guard against outdated edits

A fix reads its file, asks for the modification count, lints the text, and then reads the file and asks for
the count once more. It applies the edits if both counts are the same. The edits are applied to the text that
stood in the file when it was first asked for the count. That is the text that was linted, unless the file has
been changed after it was read and before it was asked for the count.
-/

namespace LintBridge.CommandLine

open Attempt FileTree
open Relation (ReflTransGen)

/-! ## The command up to the guard -/

/-- What a fix comes to before it applies edits. -/
inductive Readied where
  /-- The command has ended. -/
  | ended (exit : Exit)
  /-- The edits go to the text of the document. -/
  | ready (result : FixResult) (document : Document)
  deriving DecidableEq, Repr

/-- Read the file of a fix once more, and go on if it is the one that was linted, as far as its modification
count tells. -/
def guardEdits (file : Path) (uri : String) (result : FixResult) : Attempt LintError Readied := do
  match (← readDocument uri).filter fun document => result.isCurrent document.version with
  | none =>
    (Console.say .warn s!"Fixes for {file.text} are outdated and can't be applied.").attempt
    return .ended .findings
  | some document => return .ready result document

/-- Lint the file of a fix, and get ready to apply the edits. -/
def readied (file : Path) (rule : Option Text.Codes) (verbose : Bool) : Attempt LintError Readied := do
  match ← (prepare verbose).attempt with
  | none => return .ended .failure
  | some settings =>
    let uri ← uriOf file
    match ← ((service settings).fixLint uri rule).run.attempt with
    | .error (.bridge _) => return .ended .failure
    | .error e => throw e
    | .ok (.complete result) =>
      if result.edits.isEmpty then
        (Console.say .ok "No fixes available.").attempt
        return .ended .success
      else guardEdits file uri result
    | .ok _ => return .ended .failure

/-- Apply the edits of a fix that is ready. -/
def finish (file : Path) : Readied → Attempt LintError Exit
  | .ended exit => return exit
  | .ready result document => do
    match (Text.Snapshot.ofString document.text).apply result.edits with
    | .error e =>
      (Console.say .fail s!"Failed to apply fixes to {file.text}: {e.message}").attempt
      return .failure
    | .ok fixed =>
      let content ← Attempt.ofExcept (fixed.encode.mapError .unencodable)
      match ← Attempt.step (.write file content) with
      | .error cause => throw (.unwritable file cause)
      | .ok () =>
        (Console.say .ok s!"Applied {result.edits.length} edit(s) to {file.text}.").attempt
        return .success

theorem applyEdits_eq (file : Path) (uri : String) (result : FixResult) :
    applyEdits file uri result = guardEdits file uri result >>= finish file := by
  simp only [applyEdits, guardEdits, bind_assoc]
  refine bind_congr fun found => ?_
  cases found.filter fun document => result.isCurrent document.version with
  | none => simp [finish]
  | some document =>
    rw [pure_bind]
    rfl

/-- Get ready with what the request of a fix comes to. -/
def ready (file : Path) : Requested → Attempt LintError Readied
  | .ended exit => return .ended exit
  | .edits uri result => do
    if result.edits.isEmpty then
      (Console.say .ok "No fixes available.").attempt
      return .ended .success
    else guardEdits file uri result

theorem readied_eq (file : Path) (rule : Option Text.Codes) (verbose : Bool) :
    readied file rule verbose = requested file rule verbose >>= ready file := by
  simp only [readied, requested, bind_assoc]
  refine bind_congr fun settings => ?_
  cases settings with
  | none => rfl
  | some settings =>
    simp only [bind_assoc]
    refine bind_congr fun uri => bind_congr fun outcome => ?_
    cases outcome with
    | error e => cases e <;> rfl
    | ok outcome => cases outcome <;> rfl

/-- A fix that applies edits gets ready, and then applies them. -/
theorem fix_eq (file : Path) (rule : Option Text.Codes) (verbose : Bool) :
    fix file true rule verbose = readied file rule verbose >>= finish file := by
  simp only [fix, readied, bind_assoc]
  refine bind_congr fun settings => ?_
  cases settings with
  | none => simp [finish]
  | some settings =>
    simp only [bind_assoc]
    refine bind_congr fun uri => bind_congr fun outcome => ?_
    cases outcome with
    | error e => cases e <;> rfl
    | ok outcome =>
      cases outcome with
      | complete result =>
        simp only [applyEdits_eq]
        split
        next => simp [finish]
        next => rfl
      | _ => rfl

variable {outside : State → State → Prop} {s s' : State} {moments : List Moment} {uri : String} {file : Path}
  {settings : Settings} {rule : Option Text.Codes} {verbose : Bool} {result : FixResult} {document : Document}

/-- The edits for a file are outdated: it gives no document, or one with another count than that of the edits. -/
inductive Outdated (outside : State → State → Prop) (result : FixResult) (file : Path) : List Moment → Prop
  | unread {moments : List Moment} : Unread file moments → Outdated outside result file moments
  | changed {r : Reading} : r.Of outside file → result.isCurrent r.count = false →
      Outdated outside result file (r.moments file)

theorem amid_guardEdits {named : Path} (huri : Uri.toPath uri = .ok named) (hnul : hasNul named = false)
    {outcome : Except LintError Readied} (h : (guardEdits file uri result).Amid outside s moments outcome s') :
    (outcome = .ok (.ended .findings) ∧ ∃ reading shown, moments = reading ++ shown ∧
      Outdated outside result named reading) ∨
    ∃ r : Reading, outcome = .ok (.ready result (r.document uri)) ∧ r.IsRun outside uri named s moments s' ∧
      result.isCurrent r.count = true := by
  rcases amid_bind h with ⟨e, rfl, hread⟩ | ⟨_, rest, found, s₁, rfl, hread, hguard⟩
  · cases amid_readDocument hread with
    | misnamed hcause => cases huri.symm.trans hcause
    | nul huri' hnul' =>
      cases huri.symm.trans huri'
      cases hnul.symm.trans hnul'
  cases amid_readDocument hread with
  | unread huri' hunread =>
    cases huri.symm.trans huri'
    exact .inl ⟨amid_attempt_pure hguard, _, _, rfl, .unread hunread⟩
  | @reading _ r _ _ hrun =>
    cases huri.symm.trans hrun.named
    have hfilter : (some (r.document uri)).filter (fun document => result.isCurrent document.version) =
        if result.isCurrent r.count then some (r.document uri) else none := rfl
    rw [hfilter] at hguard
    cases hcurrent : result.isCurrent r.count with
    | false =>
      rw [hcurrent, if_neg Bool.false_ne_true] at hguard
      rw [hrun.moments]
      exact .inl ⟨amid_attempt_pure hguard, _, _, rfl, .changed hrun.reading hcurrent⟩
    | true =>
      rw [hcurrent, if_pos rfl] at hguard
      obtain ⟨rfl, rfl, hafter⟩ := amid_pure hguard
      rw [List.append_nil]
      exact .inr ⟨r, rfl, hrun.widen .refl hafter, hcurrent⟩

/-- What a fix has done that is ready to apply edits. -/
structure Readying where
  settings : Settings
  uri : String
  file : Path
  before : List Moment
  first : Reading
  lint : List Moment
  failures : List Failure
  second : Reading

/-- A fix has read its file, linted the text, read the file again, and found the same count of changes. -/
structure Readying.Of (d : Readying) (outside : State → State → Prop) (rule : Option Text.Codes)
    (moments : List Moment) (result : FixResult) (document : Document) : Prop where
  file : Uri.toPath d.uri = .ok d.file
  moments : moments = d.before ++ d.first.moments d.file ++ d.lint ++ d.second.moments d.file
  first : d.first.Of outside d.file
  lint : ((service d.settings).failuresOf d.file (d.first.document d.uri)).Amid outside d.first.stamped d.lint
    (.ok d.failures) d.second.opened
  result : FixResult.ofFailures ⟨d.first.text⟩ d.first.count rule d.failures = .ok result
  second : d.second.Of outside d.file
  document : document = d.second.document d.uri
  current : d.second.count = d.first.count

theorem readying_of_ready
    (h : (readied file rule verbose).Amid outside s moments (.ok (.ready result document)) s') :
    ∃ d : Readying, d.Of outside rule moments result document := by
  rw [readied_eq] at h
  obtain ⟨_, _, uri, named, fix, s₁, rfl, hfinds, hready⟩ := (amid_requested_bind h fun _ => rfl).resolve_left (by
    rintro ⟨ended, hended, -⟩
    cases ended <;> cases hended)
  dsimp only [CommandLine.ready] at hready
  split at hready
  next => cases amid_attempt_pure hready
  next =>
    obtain @⟨opening, _, settings, found, _, _, _, -, hlints⟩ := hfinds
    obtain @⟨_, first, lint, failures, _, _, hfile, hfirst, hlint, hresult⟩ := hlints
    rcases amid_guardEdits hfile hfirst.hasNul hready with ⟨⟨⟩, -⟩ | ⟨second, ⟨⟩, hsecond, hcurrent⟩
    have hversion : result.version = first.count := FixResult.version_ofFailures hresult
    refine ⟨⟨settings, Uri.ofPath found, named, opening, first, lint, failures, second⟩, ?_⟩
    constructor
    case file => exact hfile
    case moments => simp [hsecond.moments]
    case first => exact hfirst
    case lint => exact hlint.tail hsecond.before
    case result => exact hresult
    case second => exact hsecond.reading
    case document => rfl
    case current => exact Int.ofNat_inj.1 ((beq_iff_eq.1 hcurrent).symm.trans hversion)

/-! ## Files changed by others -/

/-- Another program has changed a file, and the change has raised the count of the file. -/
inductive OthersWrite (s : State) : State → Prop
  | file {place : List String} {old content : Option Bytes} {count count' : Nat} :
      s.host.files.node? place = some (.file old count) → count < count' →
      OthersWrite s { s with host := { s.host with files := s.host.files.set place (.file content count') } }

theorem OthersWrite.later (h : OthersWrite s s') : Later s.host.files s'.host.files := by
  cases h with
  | file hnode hraised => exact later_set hnode hraised

theorem later_of_othersWrite (h : ReflTransGen OthersWrite s s') : Later s.host.files s'.host.files := by
  induction h with
  | refl => exact .refl _
  | tail _ hchange ih => exact ih.trans hchange.later

theorem later_answer {q : Query} (hq : q.KeepsFiles) (s : State) :
    Later s.host.files (q.answer s).2.host.files := by
  cases q with
  | write p content => exact hq.elim
  | start call =>
    simp only [Query.answer, Host.start]
    split
    next p _ => exact later_touch _ p
    next => exact .refl _
  | log record =>
    rw [Query.answer, State.host_log]
    exact .refl _
  | restart settings =>
    rw [Query.answer, State.host_apply]
    exact .refl _
  | _ => exact .refl _

/-- While a document is linted, files are changed only as others do it. -/
theorem later_of_lint {s₁ s₂ : State} {lint : List Moment} {failures : Except LintError (List Failure)}
    (h : ((service settings).failuresOf file document).Amid OthersWrite s₁ lint failures s₂) :
    Later s₁.host.files s₂.host.files := by
  have hasks : Routine.Asks Query.KeepsFiles ((service settings).failuresOf file document).run :=
    Routine.Asks.mono (fun q hq => by cases q <;> trivial) (Service.asks_failuresOf _ _ _)
  exact hasks.amid (I := fun s s' => Later s.host.files s'.host.files) (fun _ => .refl _)
    (fun _ _ _ => .trans) (fun _ s hq => later_answer hq s) (fun _ _ => OthersWrite.later) h

/-- The file has been changed after it was read and before it was asked for its count. -/
def Reading.Overtaken (r : Reading) (file : Path) : Prop :=
  r.opened.host.files.modified file ≠ r.stamped.host.files.modified file

/-- A fix that applies edits gets ready, and then applies them to the text of a document. Whatever other
programs write while it gets ready, that text stood in the file when it was first asked for its count, which is
the version of the edits. It is the text that was linted and that the edits were computed from, unless the file
has been changed after it was read and before it was asked for its count. -/
theorem applies_linted_text_unless_overtaken (file : Path) (rule : Option Text.Codes) (verbose : Bool) :
    fix file true rule verbose = readied file rule verbose >>= finish file ∧
    ∀ {s s' moments result document},
      (readied file rule verbose).Amid OthersWrite s moments (.ok (.ready result document)) s' →
      ∃ d : Readying, d.Of OthersWrite rule moments result document ∧
        d.first.stamped.host.files.textOf? d.file = some (d.second.text, d.first.count) ∧
        (d.second.text = d.first.text ∨ d.first.Overtaken d.file) := by
  refine ⟨fix_eq file rule verbose, ?_⟩
  intro s s' moments result document h
  obtain ⟨d, hd⟩ := readying_of_ready h
  obtain ⟨content, hread, htext⟩ := hd.first.text
  obtain ⟨content', hread', htext'⟩ := hd.second.text
  obtain ⟨count₁, hfile₁⟩ := read_eq_ok_iff_fileAt.1 hread
  obtain ⟨content₂, count₂, hfile₂, -, hsame₁⟩ := (later_of_othersWrite hd.first.between).fileAt hfile₁
  obtain ⟨content₃, count₃, hfile₃, hle₂, hsame₂⟩ := (later_of_lint hd.lint).fileAt hfile₂
  obtain ⟨content₄, count₄, hfile₄, hle₃, -⟩ := (later_of_othersWrite hd.second.between).fileAt hfile₃
  have hcount₂ : count₂ = d.first.count := Except.ok.inj (hfile₂.modified.symm.trans hd.first.count)
  have hcount₄ : count₄ = d.first.count :=
    (Except.ok.inj (hfile₄.modified.symm.trans hd.second.count)).trans hd.current
  -- the two equal counts hold the one in between, at which the file was read again
  have hcontent₂ : content₂ = some content' := by
    obtain ⟨count', hfile'⟩ := read_eq_ok_iff_fileAt.1 hread'
    exact (hsame₂ (Nat.le_antisymm hle₂ (by omega))).trans (hfile₃.content_eq hfile')
  subst hcontent₂ hcount₂
  have hmodified := hfile₂.modified
  obtain ⟨place, hplace, hnode⟩ := hfile₂
  refine ⟨d, hd, textOf?_eq_some_iff.2 ⟨place, content', hplace, hnode, htext'⟩, ?_⟩
  by_cases hcount : count₁ = d.first.count
  · cases hsame₁ hcount
    exact .inl (Option.some.inj (htext'.symm.trans htext))
  · refine .inr fun hequal => hcount ?_
    rw [hfile₁.modified, hmodified] at hequal
    exact Except.ok.inj hequal

/-! ## A fix that is overtaken -/

/-- The states in which a file is read, at some moments. -/
def readings (file : Path) (moments : List Moment) : List State :=
  moments.filterMap fun
    | ⟨s, .read p⟩ => if p = file then some s else none
    | _ => none

@[simp] theorem readings_append (file : Path) (moments moments' : List Moment) :
    readings file (moments ++ moments') = readings file moments ++ readings file moments' :=
  List.filterMap_append ..

@[simp] theorem readings_moments (r : Reading) (file : Path) : readings file (r.moments file) = [r.opened] := by
  simp [readings, Reading.moments]

/-- If the file is read twice only, the first time is that of the lint. -/
theorem Readying.Of.opened {d : Readying} (h : d.Of outside rule moments result document) {s₁ s₂ : State}
    (hreadings : readings d.file moments = [s₁, s₂]) : d.first.opened = s₁ ∧ d.second.opened = s₂ := by
  rw [h.moments] at hreadings
  simp only [readings_append, readings_moments] at hreadings
  have hlength := congrArg List.length hreadings
  simp only [List.length_append, List.length_cons, List.length_nil] at hlength
  have hbefore : readings d.file d.before = [] := List.length_eq_zero_iff.1 (by omega)
  have hlint : readings d.file d.lint = [] := List.length_eq_zero_iff.1 (by omega)
  simpa [hbefore, hlint] using hreadings

/-- The project when another program has changed the file after it was read, and before it is asked for its
count. -/
def overtaken : State :=
  { configured project false with host := { project.host with
    files := project.host.files.set ["src", "a.ts"]
      (.file (some (Text.Utf8.encode "\uFEFFb\r\n😀\r".toList)) 2) } }

/-- The fix of the project until it has read the file, and what is left of it then. -/
def untilRead : List Moment × Routine (Except LintError Readied) × State :=
  (readied (.ofString "/src/a.ts") none false).run.forward 4 project

/-- The fix of the project that is overtaken. -/
theorem amid_overtaken :
    (readied (.ofString "/src/a.ts") none false).Amid OthersWrite project
      (untilRead.1 ++ untilRead.2.1.moments overtaken)
      (.ok (.ready { version := 2, edits := (projectLint project).result.edits, rule := none }
        (documentOf "file:///src/a.ts" "\uFEFFb\r\n😀\r".toList 2)))
      (untilRead.2.1.run overtaken).2 := by
  have hfile : (configured project false).host.files.node? ["src", "a.ts"] =
      some (.file (some (Text.Utf8.encode "\uFEFFa\r\n😀\r".toList)) 1) := by decide +kernel
  have hwrite : OthersWrite (configured project false) overtaken := .file hfile (by decide)
  have hready : (untilRead.2.1.run overtaken).1 =
      .ok (.ready { version := 2, edits := (projectLint project).result.edits, rule := none }
        (documentOf "file:///src/a.ts" "\uFEFFb\r\n😀\r".toList 2)) := by
    refine toOption_eq_some_iff.1 ?_
    dsimp only [projectLint]
    decide +kernel
  have hrest := Routine.amid_run OthersWrite untilRead.2.1 overtaken
  rw [hready] at hrest
  exact Routine.amid_forward rfl (.meanwhile hwrite hrest)

/-- The file is read with one text for the lint, and with the other one when it is read again. -/
theorem readings_overtaken :
    (readings ⟨.root, ["src", "a.ts"]⟩ (untilRead.1 ++ untilRead.2.1.moments overtaken)).map
        (fun s => s.host.files.textOf? ⟨.root, ["src", "a.ts"]⟩) =
      [some ("\uFEFFa\r\n😀\r".toList, 1), some ("\uFEFFb\r\n😀\r".toList, 2)] := by
  decide +kernel

theorem applies_other_text_overtaken :
    ∃ moments result document s',
      (readied (.ofString "/src/a.ts") none false).Amid OthersWrite project moments
        (.ok (.ready result document)) s' ∧
      ∃ d : Readying, d.Of OthersWrite none moments result document ∧
        d.first.text = "\uFEFFa\r\n😀\r".toList ∧ d.second.text = "\uFEFFb\r\n😀\r".toList ∧
        d.first.Overtaken d.file := by
  obtain ⟨d, hd, -, htext⟩ := (applies_linted_text_unless_overtaken _ _ _).2 amid_overtaken
  have hdocument : "file:///src/a.ts" = d.uri := congrArg Document.uri hd.document
  have hfile : d.file = ⟨.root, ["src", "a.ts"]⟩ := by
    have huri : Uri.toPath "file:///src/a.ts" = .ok ⟨.root, ["src", "a.ts"]⟩ :=
      toOption_eq_some_iff.1 (by decide +kernel)
    exact Except.ok.inj (hd.file.symm.trans (hdocument ▸ huri))
  obtain ⟨s₁, states, hreadings, hfirst, hrest⟩ := List.map_eq_cons_iff.1 readings_overtaken
  obtain ⟨s₂, states, rfl, hsecond, hnil⟩ := List.map_eq_cons_iff.1 hrest
  obtain rfl := List.map_eq_nil_iff.1 hnil
  obtain ⟨rfl, rfl⟩ := hd.opened (hfile ▸ hreadings)
  have hlinted := hd.first.text_eq (hfile ▸ hfirst)
  have happlied := hd.second.text_eq (hfile ▸ hsecond)
  refine ⟨_, _, _, _, amid_overtaken, d, hd, hlinted, happlied, htext.resolve_left ?_⟩
  rw [hlinted, happlied]
  decide

end LintBridge.CommandLine
