-- SUMMARY: A closed document has no diagnostics left, unless it was closed during a run or under another URI.
import LintBridge.Proofs.Routine.Pool
import LintBridge.Proofs.Service.Contained
import LintBridge.Session.Calls

/-!
# Closed documents

When a document is closed its diagnostics are cleared, and a run that begins later finds no document and
publishes an empty list. So none are left when all requests have ended, unless a run was under way when the
document was closed: it has read the text before, and publishes what it finds after the diagnostics were
cleared. They are also left when the URI that the client closes is spelled in another way than the URI under
which the document is looked up, since the empty list is then published for the other spelling.
-/

namespace LintBridge

open Session

variable {settings : Settings} {uri other : String}

/-! ## The last publication -/

namespace State

/-- The diagnostics that were published last for a URI. -/
def lastPublished? (s : State) (uri : String) : Option (List Diagnostic) :=
  Table.find? s.publications.reverse uri

/-- Nothing was ever published for a URI, or an empty list last. -/
def IsClean (uri : String) (s : State) : Prop := s.lastPublished? uri = none ∨ s.lastPublished? uri = some []

/-- No document is kept under a URI. -/
def DocumentClosed (uri : String) (s : State) : Prop := openDocument? s.documents uri = none

/-- A step leaves no diagnostics for a URI where there were none. -/
def KeepsClean (uri : String) (s s' : State) : Prop := s.IsClean uri → s'.IsClean uri

theorem lastPublished?_published (s : State) (diagnostics : List Diagnostic) :
    (s.emit (.published other diagnostics)).lastPublished? uri =
      if other = uri then some diagnostics else s.lastPublished? uri := by
  rw [lastPublished?, publications_emit]
  simp [Event.publication?, Table.find?, lastPublished?]

theorem Quiet.keepsClean {s s' : State} (h : s.Quiet s') : s.KeepsClean uri s' := by
  intro hs
  rwa [IsClean, lastPublished?, h.publications]

theorem isClean_cleared (s : State) : (s.emit (.published uri [])).IsClean uri := by
  right
  rw [lastPublished?_published, if_pos rfl]

theorem keepsClean_cleared (s : State) : s.KeepsClean uri (s.emit (.published other [])) := by
  intro hs
  by_cases hother : other = uri
  · subst hother
    exact isClean_cleared s
  · rwa [IsClean, lastPublished?_published, if_neg hother]

theorem keepsClean_published (hother : other ≠ uri) (s : State) (diagnostics : List Diagnostic) :
    s.KeepsClean uri (s.emit (.published other diagnostics)) := by
  intro hs
  rwa [IsClean, lastPublished?_published, if_neg hother]

end State

open State

/-! ## Steps of calls -/

/-- A run request for a URI. -/
def ClientCall.RunsFor (uri : String) : ClientCall → Prop
  | .run params => requestUri? params = some uri
  | .closed _ => False

theorem Routine.Asks.keepsClean {α : Type} {A : State → Prop} {r : Routine α} (h : r.Asks Query.Silent) :
    r.Upholds A (KeepsClean uri) fun _ => True :=
  h.upholds fun _ s hq _ => (Query.quiet_answer hq s).keepsClean

theorem asks_reportError (message : Text.Codes) : (reportError message).Asks Query.Silent :=
  Routine.asks_bind (Routine.asks_step trivial) fun _ => Routine.asks_step trivial

/-- A run publishes an empty list for its URI, or what the lint has found. -/
theorem Service.upholds_runLint {A : State → Prop} {s : Service}
    {post : Except LintError (Document × List Failure) → Prop}
    (hreport : ∀ message, (s.report message).Asks Query.Silent)
    (hlint : (s.lintDocument other).Upholds A (KeepsClean uri) post)
    (hpublish : ∀ linted, post (.ok linted) → ∀ (σ : State) diagnostics,
      σ.KeepsClean uri (σ.emit (.published other diagnostics))) :
    (s.runLint other).Upholds A (KeepsClean uri) fun _ => True := by
  unfold Service.runLint
  refine Attempt.upholds_attempt_bind hlint fun result hresult => ?_
  cases result with
  | ok linted =>
    obtain ⟨document, failures⟩ := linted
    dsimp only
    cases hshown : Diagnostic.ofFailures s.settings.source failures with
    | error cause => exact Attempt.upholds_throw trivial
    | ok diagnostics =>
      refine Attempt.upholds_step_bind fun σ _ => ?_
      exact ⟨hpublish _ hresult σ diagnostics, Attempt.upholds_pure trivial⟩
  | error e =>
    have hreported : (s.reportRun e).Upholds A (KeepsClean uri) fun _ => True := (hreport _).keepsClean
    dsimp only
    cases e.treatment with
    | foreign => exact Attempt.upholds_attempt_bind hreported fun _ _ => Attempt.upholds_pure trivial
    | fatal =>
      refine Attempt.upholds_attempt_bind hreported fun _ _ => ?_
      exact Attempt.upholds_step_bind fun σ _ => ⟨σ.keepsClean_cleared, Attempt.upholds_throw trivial⟩
    | unresolved =>
      refine Attempt.upholds_attempt_bind hreported fun _ _ => ?_
      exact Attempt.upholds_step_bind fun σ _ => ⟨σ.keepsClean_cleared, Attempt.upholds_pure trivial⟩
    | passed => exact Attempt.upholds_throw trivial

/-- A lint of a document that is not open fails. -/
theorem upholds_lintDocument_closed : ((service settings).lintDocument uri).Upholds (DocumentClosed uri)
    (KeepsClean uri) fun result => ∃ e, result = .error e := by
  have hdocument : ((service settings).document uri).Upholds (DocumentClosed uri) (KeepsClean uri)
      fun result => ∃ e, result = .error e := by
    refine Attempt.upholds_step_bind fun σ hσ => ⟨fun hclean => hclean, ?_⟩
    have hnone : ((Query.document uri).answer σ).1 = none := hσ
    rw [hnone]
    exact Attempt.upholds_throw ⟨_, rfl⟩
  have htarget : ((service settings).target uri).Upholds (DocumentClosed uri) (KeepsClean uri)
      fun result => ∃ e, result = .error e := by
    unfold Service.target Service.fileOf
    cases (Uri.toPath uri).mapError LintError.uri with
    | error e => exact Attempt.upholds_throw ⟨e, rfl⟩
    | ok file =>
      change (((service settings).document uri) >>= _).Upholds _ _ _
      exact Attempt.upholds_bind hdocument (fun _ ⟨_, h⟩ => nomatch h) fun e _ => ⟨e, rfl⟩
  exact Attempt.upholds_bind htarget (fun _ ⟨_, h⟩ => nomatch h) fun e _ => ⟨e, rfl⟩

theorem upholds_run {A : State → Prop} {params : Json.Value}
    (hrun : ∀ other, requestUri? params = some other →
      ((service settings).runLint other).Upholds A (KeepsClean uri) fun _ => True) :
    (Session.run settings params).Upholds A (KeepsClean uri) fun _ => True := by
  have hreported (message : Text.Codes) : (reportError message).Upholds A (KeepsClean uri) fun _ => True :=
    (asks_reportError message).keepsClean
  unfold Session.run
  cases hrequest : requestUri? params with
  | none => exact Attempt.upholds_attempt (hreported _)
  | some other =>
    refine Attempt.upholds_bind (hrun other hrequest) (fun _ _ => ?_) fun _ _ => trivial
    exact Attempt.upholds_pure trivial

/-- A call that is no run for a URI leaves no diagnostics for it. -/
theorem ClientCall.keepsClean_of_other {call : ClientCall} (hcall : ¬ call.RunsFor uri) :
    (call.routine settings).Upholds (fun _ => True) (KeepsClean uri) fun _ => True := by
  cases call with
  | closed other =>
    exact Routine.upholds_step (q := .publish other []) fun σ _ => ⟨σ.keepsClean_cleared, trivial⟩
  | run params =>
    refine upholds_run fun other hrequest => ?_
    have hother : other ≠ uri := by
      rintro rfl
      exact hcall hrequest
    have hlint : ((service settings).lintDocument other).Upholds (fun _ => True) (KeepsClean uri)
        fun _ => True := (Service.asks_lintDocument (Service.isStore_session settings).silent other).keepsClean
    exact Service.upholds_runLint (s := service settings) asks_reportError hlint
      fun _ _ => keepsClean_published hother

/-- While the document of a URI is closed, no call leaves diagnostics for it. -/
theorem ClientCall.keepsClean (call : ClientCall) :
    (call.routine settings).Upholds (DocumentClosed uri) (KeepsClean uri) fun _ => True := by
  by_cases hcall : call.RunsFor uri
  · cases call with
    | closed other => exact hcall.elim
    | run params =>
      refine upholds_run fun other hrequest => ?_
      cases hrequest.symm.trans hcall
      exact Service.upholds_runLint (s := service settings) asks_reportError upholds_lintDocument_closed
        fun _ ⟨_, h⟩ => nomatch h
  · exact (ClientCall.keepsClean_of_other hcall).mono (fun _ _ => trivial) (fun _ _ _ h => h) fun _ h => h

/-! ## Messages -/

open Pool

variable {p p' q r : Pool (clientCalls settings)} {s : State} {calls : List ClientCall}

theorem openDocument_eq_ok {text : String} {version : Int} {s s' : State}
    (h : openDocument s other text version = .ok s') :
    s' = { s with documents := putDocument s.documents ⟨documentKey other, text, version⟩ } := by
  unfold openDocument at h
  obtain ⟨_, -, hs⟩ := bind_eq_ok_iff.1 h
  exact (Except.ok.inj hs).symm

/-- Messages of the client show nothing. -/
theorem Message.trace (h : Message settings p s calls) : s.trace = p.state.trace := by
  cases h with
  | run params => rfl
  | opened h => rw [openDocument_eq_ok h]
  | closed other => rfl
  | hostChanged host => rfl

theorem Message.keepsClean (h : Message settings p s calls) (hp : p.state.IsClean uri) : s.IsClean uri := by
  have hquiet : p.state.Quiet s := by
    constructor
    · simp only [reports, h.trace]
    · simp only [publications, h.trace]
  exact hquiet.keepsClean hp

/-- A document that is open stays so until it is closed. -/
theorem Message.closes (h : Message settings p s calls) (hopen : ¬ p.state.DocumentClosed uri)
    (hclosed : s.DocumentClosed uri) :
    ∃ other, documentKey other = uri ∧ s = dropDocument p.state other ∧ calls = [.closed other] := by
  cases h with
  | run params => exact absurd hclosed hopen
  | hostChanged host => exact absurd hclosed hopen
  | @opened other text version _ h =>
    rw [openDocument_eq_ok h] at hclosed
    by_cases hkey : documentKey other = uri
    · subst hkey
      have hput := openDocument?_putDocument p.state.documents ⟨documentKey other, text, version⟩
      cases hclosed.symm.trans hput
    · exact absurd ((openDocument?_putDocument_of_ne _ hkey).symm.trans hclosed) hopen
  | closed other =>
    by_cases hkey : documentKey other = uri
    · exact ⟨other, hkey, rfl, rfl⟩
    · exact absurd ((openDocument?_closeDocument_of_ne _ hkey).symm.trans hclosed) hopen

/-- No step of a call opens or closes a document. -/
theorem Query.documents_answer (q : Query) (s : State) : (q.answer s).2.documents = s.documents := by
  cases q with
  | log record =>
    exact State.log_keeps (I := fun s s' => s'.documents = s.documents) (fun _ => rfl)
      (fun _ _ _ h h' => h'.trans h) (fun _ _ => rfl) (fun _ _ => rfl) (fun _ _ => rfl) s record
  | restart settings => exact s.documents_apply settings
  | _ => rfl

/-- A document that is open stays so until a message closes it. -/
theorem step_closes (h : Step (Message settings) q r) (hopen : ¬ q.state.DocumentClosed uri)
    (hclosed : r.state.DocumentClosed uri) :
    ∃ other, documentKey other = uri ∧ r = q.receive (dropDocument q.state other) [.closed other] := by
  cases h with
  | receive h =>
    obtain ⟨other, hkey, rfl, rfl⟩ := h.closes hopen hclosed
    exact ⟨other, hkey, rfl⟩
  | advance i =>
    rcases q.advance_cases i with ⟨call, query, next, hi⟩ | hsame
    · rw [advance_of_ask hi, DocumentClosed, query.documents_answer] at hclosed
      exact absurd hclosed hopen
    · exact absurd (hsame ▸ hclosed) hopen

/-! ## Runs -/

theorem keeps_message_other (uri : String) : Keeps (Message settings) (fun _ => True) (fun _ => True)
    (KeepsClean uri) (fun _ (call : ClientCall) => ¬ call.RunsFor uri) fun _ _ _ => True :=
  ⟨fun _ _ _ _ _ _ _ _ _ hcall => ClientCall.keepsClean_of_other hcall, fun _ _ _ _ _ _ => trivial⟩

theorem keeps_message_closed : Keeps (Message settings) (DocumentClosed uri) (DocumentClosed uri)
    (KeepsClean uri) (fun _ _ => True) fun _ _ _ => True :=
  ⟨fun _ _ _ _ _ call _ _ _ _ => ClientCall.keepsClean call, fun _ _ _ _ _ hr => hr⟩

/-- A session that begins: no document is open, and nothing has been published. -/
def State.beginning (s : State) : State := { s with documents := [], trace := [] }

/-- The document of a URI was closed for the last time at `q`, as the client spelled its URI. -/
structure LastClosed (uri other : String) (q p : Pool (clientCalls settings)) : Prop where
  key : documentKey other = uri
  opened : ¬ q.state.DocumentClosed uri
  after : Runs (Message settings) (DocumentClosed uri)
    (q.receive (dropDocument q.state other) [.closed other]) p

theorem keepsClean_message (h : Message settings q s calls) (_ : q.state.DocumentClosed uri)
    (hq : q.state.IsClean uri) : s.IsClean uri := h.keepsClean hq

/-- When a document is closed and no run for it is under way, the diagnostics that are cleared stay so as
long as it is closed. -/
theorem clean_of_closed (hbefore : Reaches (Message settings) ⟨s.beginning, []⟩ q)
    (hfree : ∀ task ∈ q.tasks, task.call.RunsFor uri → task.IsDone)
    (hclosed : (dropDocument q.state uri).DocumentClosed uri)
    (hafter : Runs (Message settings) (DocumentClosed uri)
      (q.receive (dropDocument q.state uri) [.closed uri]) p)
    (hidle : ∀ task ∈ p.tasks, task.IsDone) : p.state.IsClean uri := by
  obtain ⟨hq, -⟩ := (upholds_begin s.beginning).runs (keeps_message_other uri) hbefore trivial
  have hreceived : (q.receive (dropDocument q.state uri) [.closed uri]).Upholds (DocumentClosed uri)
      (KeepsClean uri) (fun _ _ => True) fun _ _ _ => True := by
    intro i task hi _
    rcases q.tasks_receive _ _ hi with hold | ⟨-, call, -, rfl⟩
    · by_cases hcall : task.call.RunsFor uri
      · obtain ⟨result, hresult⟩ := hfree task (List.mem_of_getElem? hold) hcall
        rw [hresult]
        exact Routine.upholds_done_iff.2 trivial
      · exact (hq i task hold hcall).mono (fun _ _ => trivial) (fun _ _ _ h => h) fun _ h => h
    · exact ClientCall.keepsClean call
  have htask := q.getElem?_receive_single (dropDocument q.state uri) (.closed uri)
  rcases Upholds.brings keeps_message_closed (fun _ _ _ h => h) (fun _ _ _ => keepsClean_message)
    (fun σ _ => isClean_cleared σ) hafter hreceived hclosed htask with hwaits | hclean
  · obtain ⟨result, hdone⟩ := hidle _ (List.mem_of_getElem? hwaits)
    cases hdone
  · exact hclean

/-- Once all requests have ended no diagnostics are left for a URI whose document is closed, unless the
document was closed under another spelling, or while a run for the URI was under way. -/
theorem clean_unless_closed_during_run
    (hrun : Reaches (Message settings) (⟨s.beginning, []⟩ : Pool (clientCalls settings)) p)
    (hidle : ∀ task ∈ p.tasks, task.IsDone) (hclosed : p.state.DocumentClosed uri) :
    p.state.IsClean uri ∨
      ∃ q other, Reaches (Message settings) ⟨s.beginning, []⟩ q ∧ LastClosed uri other q p ∧
        (other ≠ uri ∨ ∃ task ∈ q.tasks, task.call.RunsFor uri ∧ ¬ task.IsDone) := by
  rcases hrun.last_entry (R := DocumentClosed uri) hclosed with
    ⟨hstart, hrun⟩ | ⟨q, r, hbefore, hopen, hstep, hr, hafter⟩
  · -- it was never open, so there is nothing that a run could have found
    left
    exact (upholds_begin s.beginning).good_runs keeps_message_closed (fun _ _ _ h => h)
      (fun _ _ _ => keepsClean_message) hrun hstart (.inl rfl)
  · obtain ⟨other, hkey, rfl⟩ := step_closes hstep hopen hr
    have hlast : LastClosed uri other q p := ⟨hkey, hopen, hafter⟩
    by_cases hspelling : other = uri
    · subst hspelling
      by_cases hunderway : ∃ task ∈ q.tasks, task.call.RunsFor other ∧ ¬ task.IsDone
      · exact .inr ⟨q, other, hbefore, hlast, .inr hunderway⟩
      · left
        refine clean_of_closed hbefore (fun task htask hcall => ?_) hr hafter hidle
        by_contra hdone
        exact hunderway ⟨task, htask, hcall, hdone⟩
    · exact .inr ⟨q, other, hbefore, hlast, .inl hspelling⟩

/-! ## A document that is closed too early -/

/-- A project whose library finds one failure at the beginning of every text. -/
def failingProject : State where
  host := { Service.negativeLine.host with
    replies := fun call =>
      let place := "\x7b\"position\":0,\"line\":0,\"character\":0\x7d"
      let result :=
        if call.cwd = some ⟨.root, []⟩ then "\x7b\x7d"
        else "[\x7b\"start\":" ++ place ++ ",\"end\":" ++ place ++ "\x7d]"
      { outcome := .exited 0 (some ("\x7b\"ok\":1,\"result\":" ++ result ++ "\x7d")) none } }

/-- The document of the session. -/
def failingUri : String := "file:///src/a.ts"

/-- A run has read the document that the client has opened. -/
def failingRun : Pool (clientCalls {}) :=
  let opened := (⟨failingProject.beginning, []⟩ : Pool (clientCalls {})).receive
    { failingProject.beginning with documents := putDocument [] ⟨documentKey failingUri, "a", 1⟩ } []
  (opened.receive opened.state
    [.run (.object [("textDocument", .object [("uri", .text failingUri)])])]).advances [0]

/-- The client closes the document, its diagnostics are cleared, and the run goes on to its end. -/
def failingEnd : Pool (clientCalls {}) :=
  (failingRun.receive (dropDocument failingRun.state failingUri) [.closed failingUri]).advances
    (1 :: List.replicate 30 0)

theorem reaches_failingEnd :
    Reaches (Message {}) (⟨failingProject.beginning, []⟩ : Pool (clientCalls {})) failingEnd := by
  have hopened : openDocument failingProject.beginning failingUri "a" 1 =
      .ok { failingProject.beginning with documents := putDocument [] ⟨documentKey failingUri, "a", 1⟩ } := by
    have huri : (Uri.ofString failingUri).toOption.isSome := by decide +kernel
    obtain ⟨parsed, hparsed⟩ := Option.isSome_iff_exists.1 huri
    unfold openDocument
    rw [toOption_eq_some_iff.1 hparsed]
    rfl
  have hrun : Reaches (Message {}) (⟨failingProject.beginning, []⟩ : Pool (clientCalls {})) failingRun :=
    .trans (.tail (.tail .refl (.receive (.opened hopened)) trivial) (.receive (.run _)) trivial)
      (reaches_advances _ _)
  exact .trans (.tail hrun (.receive (.closed failingUri)) trivial) (reaches_advances _ _)

theorem clean_unless_closed_during_run_failing :
    (∀ task ∈ failingEnd.tasks, task.IsDone) ∧ failingEnd.state.DocumentClosed failingUri ∧
      ¬ failingEnd.state.IsClean failingUri ∧
      ∃ q other, Reaches (Message {}) ⟨failingProject.beginning, []⟩ q ∧
        LastClosed failingUri other q failingEnd ∧
        (other ≠ failingUri ∨ ∃ task ∈ q.tasks, task.call.RunsFor failingUri ∧ ¬ task.IsDone) := by
  have hend : (∀ task ∈ failingEnd.tasks, task.IsDone) ∧
      (openDocument? failingEnd.state.documents failingUri).isNone ∧
      (failingEnd.state.lastPublished? failingUri).map (·.length) = some 1 := by decide +kernel
  obtain ⟨hidle, hnone, hleft⟩ := hend
  have hclosed : failingEnd.state.DocumentClosed failingUri := Option.isNone_iff_eq_none.1 hnone
  have hdirty : ¬ failingEnd.state.IsClean failingUri := by
    rintro (hnever | hempty)
    · rw [hnever] at hleft
      cases hleft
    · rw [hempty] at hleft
      cases hleft
  exact ⟨hidle, hclosed, hdirty,
    (clean_unless_closed_during_run reaches_failingEnd hidle hclosed).resolve_left hdirty⟩

end LintBridge
