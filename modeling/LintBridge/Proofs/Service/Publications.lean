-- SUMMARY: What each call on a service publishes, over any history of calls.
import LintBridge.Proofs.Cache.Transparent
import LintBridge.Proofs.Diagnostic
import LintBridge.Proofs.Routine.History
import LintBridge.Proofs.Service.Flows
import LintBridge.Proofs.Service.LintCalls
import LintBridge.Service.Calls

/-!
# Publications of a service

A run publishes at most once, and only for its own document: the diagnostics of all entries that the one
child process of its lint has responded, in order, or none when an error was reported. A closed document is
cleared, and no other call publishes anything. This holds of each call in a history, whatever the calls before
it have left in the cache.
-/

namespace LintBridge

open Json

/-! ## Sources of documents -/

/-- A question that a source of documents may ask. -/
def Query.OfStore : Query → Prop
  | .document _ | .read _ | .modified _ => True
  | _ => False

/-- A source of documents looks into the table of open documents, or at files, and does nothing else. -/
def Service.LooksUp (s : Service) : Prop := ∀ uri, (s.documents uri).Asks Query.OfStore

theorem Query.OfStore.silent {q : Query} (h : q.OfStore) : q.Silent := by
  cases q with
  | document | read | modified => trivial
  | _ => exact h.elim

theorem Service.looksUp_session (settings : Settings) : (Session.service settings).LooksUp :=
  fun _ => Attempt.asks_step trivial

variable {s : Service}

namespace Turn

/-- What a call publishes, in order. -/
def published (turn : Turn (serviceCalls s)) : List (String × List Diagnostic) :=
  turn.after.publications.drop turn.before.publications.length

/-- The diagnostics that a run of a document publishes are those of the entries that the one child process of
its lint has responded. -/
def Lints (turn : Turn (serviceCalls s)) (uri : String) (ds : List Diagnostic) : Prop :=
  ∃ file document σ items, (s.target uri).runOn turn.before = (.ok (file, document), σ) ∧
    LintedBy (callsStarted turn.asked) turn.before.host file document (.list items) ∧
    List.Forall₂ Diagnostic.Shows items ds

/-- The call reports an error. -/
def Reports (turn : Turn (serviceCalls s)) : Prop :=
  ∃ message, turn.after.reports = turn.before.reports ++ [message]

/-- What a call may publish. A run that publishes nothing but an empty list has found no entry, or reported an
error. -/
def Due (turn : Turn (serviceCalls s)) (published : List (String × List Diagnostic)) : Prop :=
  match turn.call with
  | .run uri => published = [] ∨ ∃ ds, published = [(uri, ds)] ∧ (turn.Lints uri ds ∨ ds = [] ∧ turn.Reports)
  | .closed uri => published = [(uri, [])]
  | _ => published = []

end Turn

/-! ## Child processes of a run -/

theorem callsStarted_eq_nil {questions : List Query} (h : ∀ q ∈ questions, q.OfStore) :
    callsStarted questions = [] := by
  refine List.filterMap_eq_nil_iff.2 fun q hq => ?_
  have hstore := h q hq
  cases q with
  | start => exact hstore.elim
  | _ => rfl

namespace Service

variable {uri : String} {file : Path} {document : Document} {failures : List Failure} {σ σ₁ σ' : State}

/-- A run that publishes the diagnostics of a lint starts the child processes of the lint only. -/
theorem callsStarted_runLint (hs : s.LooksUp) {ds : List Diagnostic}
    (htarget : (s.target uri).runOn σ = (.ok (file, document), σ₁))
    (hlint : (s.failuresOf file document).runOn σ₁ = (.ok failures, σ'))
    (hshown : Diagnostic.ofFailures s.settings.source failures = .ok ds) :
    callsStarted ((s.runLint uri).asked σ) = callsStarted ((s.failuresOf file document).asked σ₁) := by
  have hdocument : ((s.lintDocument uri).run.attempt : Attempt LintError _).runOn σ =
      (.ok (.ok (document, failures)), σ') := by
    have hrun : Routine.run (s.lintDocument uri).run σ = _ := runOn_lintDocument_linted htarget hlint
    rw [Attempt.runOn_attempt, hrun]
  have hasked : Routine.asked (s.lintDocument uri).run σ =
      (s.target uri).asked σ ++ ((s.failuresOf file document).asked σ₁ ++ []) := by
    change (s.lintDocument uri).asked σ = _
    rw [lintDocument, Attempt.asked_bind_ok htarget, Attempt.asked_bind_ok hlint]
    rfl
  have hresult : (Attempt.ofExcept ((Diagnostic.ofFailures s.settings.source failures).mapError
      LintError.position)).runOn σ' = (.ok ds, σ') := by
    rw [hshown]
    rfl
  have hpublish : callsStarted ((Attempt.step (.publish uri ds) : Attempt LintError Unit).asked σ') = [] := rfl
  have htarget : callsStarted ((s.target uri).asked σ) = [] :=
    callsStarted_eq_nil ((asks_target hs uri).asked σ)
  rw [runLint, Attempt.asked_bind_ok hdocument, Attempt.asked_attempt, hasked]
  dsimp only
  rw [Attempt.asked_bind_ok hresult, Attempt.asked_bind_ok (Attempt.runOn_step ..)]
  simp only [callsStarted_append, htarget, hpublish, Attempt.asked_ofExcept, Attempt.asked_pure]
  simp [callsStarted]

end Service

/-! ## Each call -/

namespace Turn

open Service

/-- A call publishes what is due, after all that was published before. -/
structure Publishes (turn : Turn (serviceCalls s)) (ps : List (String × List Diagnostic)) : Prop where
  after : turn.after.publications = turn.before.publications ++ ps
  due : turn.Due ps

theorem Publishes.published {turn : Turn (serviceCalls s)} {ps : List (String × List Diagnostic)}
    (h : turn.Publishes ps) : turn.Publishes turn.published := by
  have hps : turn.published = ps := by simp [Turn.published, h.after]
  rw [hps]
  exact h

/-- A quiet call publishes nothing. -/
theorem after_of_quiet {turn : Turn (serviceCalls s)} (h : turn.before.Quiet turn.after) :
    turn.after.publications = turn.before.publications ++ [] := by
  rw [h.publications, List.append_nil]

section

variable {uri : String} {σ σ' : State}

theorem LooksUp.silent (hs : s.LooksUp) (uri : String) : (s.documents uri).Asks Query.Silent :=
  (hs uri).mono fun _ => Query.OfStore.silent

/-- A run that has linted publishes the diagnostics, unless one of them cannot be shown. -/
theorem publishes_linted (hs : s.LooksUp) {document : Document} {failures : List Failure}
    (hlint : (s.lintDocument uri).runOn σ = (.ok (document, failures), σ')) :
    ∃ ps, (⟨.run uri, σ⟩ : Turn (serviceCalls s)).Publishes ps := by
  have hquiet := quiet_lintDocument (LooksUp.silent hs) hlint
  obtain ⟨file, σ₁, htarget, hfailures⟩ := exists_target_of_linted hlint
  cases hshown : Diagnostic.ofFailures s.settings.source failures with
  | error cause =>
    have hrun := runOn_runLint_position hlint hshown
    have hquiet : σ.Quiet ((s.runLint uri).runOn σ).2 := by rwa [hrun]
    exact ⟨[], after_of_quiet hquiet, .inl rfl⟩
  | ok ds =>
    have hrun := runOn_runLint_complete hlint hshown
    have hafter : ((s.runLint uri).runOn σ).2.publications = σ.publications ++ [(uri, ds)] := by
      rw [hrun, State.publications_emit, hquiet.publications]
      rfl
    obtain ⟨result, hlinted, hparse⟩ := linted_of_failuresOf hfailures
    obtain ⟨items, rfl, hshows⟩ := shows_of_parseFailures hparse hshown
    rw [← callsStarted_runLint hs htarget hfailures hshown] at hlinted
    exact ⟨[(uri, ds)], hafter,
      .inr ⟨ds, rfl, .inl ⟨file, document, σ₁, items, htarget, hlinted.before htarget, hshows⟩⟩⟩

/-- A run whose lint has failed clears the diagnostics with a report, or publishes nothing. -/
theorem publishes_error (hs : s.LooksUp) (hreport : s.HandsOn) {e : LintError}
    (hlint : (s.lintDocument uri).runOn σ = (.error e, σ')) :
    ∃ ps, (⟨.run uri, σ⟩ : Turn (serviceCalls s)).Publishes ps := by
  have hquiet := quiet_lintDocument (LooksUp.silent hs) hlint
  obtain ⟨message, hmessage⟩ := hreport.run_reportRun e σ'
  have hrun := runOn_runLint_error hlint
  rw [hmessage] at hrun
  have hcleared (hafter : ((s.runLint uri).runOn σ).2 =
      (σ'.emit (.reported message)).emit (.published uri [])) :
      ∃ ps, (⟨.run uri, σ⟩ : Turn (serviceCalls s)).Publishes ps := by
    obtain ⟨hreports, hpublications⟩ := hquiet.report_publish message uri []
    rw [← hafter] at hreports hpublications
    exact ⟨[(uri, [])], hpublications, .inr ⟨[], rfl, .inr ⟨rfl, message, hreports⟩⟩⟩
  cases he : e.treatment with
  | foreign =>
    rw [he] at hrun
    have hafter : ((s.runLint uri).runOn σ).2.publications = σ.publications ++ [] := by
      rw [hrun, (hquiet.report message).2, List.append_nil]
    exact ⟨[], hafter, .inl rfl⟩
  | fatal =>
    rw [he] at hrun
    exact hcleared (congrArg Prod.snd hrun)
  | unresolved =>
    rw [he] at hrun
    exact hcleared (congrArg Prod.snd hrun)
  | passed =>
    rw [he] at hrun
    have hquiet : σ.Quiet ((s.runLint uri).runOn σ).2 := by rwa [hrun]
    exact ⟨[], after_of_quiet hquiet, .inl rfl⟩

theorem publishes_fix (hs : s.LooksUp) (hreport : s.HandsOn) (uri : String) (rule : Option Text.Codes)
    (σ : State) : (⟨.fix uri rule, σ⟩ : Turn (serviceCalls s)).Publishes [] := by
  refine ⟨?_, rfl⟩
  change ((s.fixLint uri rule).runOn σ).2.publications = σ.publications ++ []
  rw [List.append_nil]
  cases hlint : (s.lintDocument uri).runOn σ with
  | mk result σ' =>
  have hquiet := quiet_lintDocument (LooksUp.silent hs) hlint
  cases result with
  | ok linted =>
    rw [runOn_fixLint_linted hlint]
    split
    next => exact hquiet.publications
    next => exact hquiet.publications
  | error e =>
    obtain ⟨message, hmessage⟩ := hreport.run_reportFix e σ'
    rcases runOn_fixLint_error rule hlint with ⟨outcome, hfix, -⟩ | ⟨left, hfix, rfl | rfl, -⟩
    · rw [hfix, hmessage]
      exact (hquiet.report message).2
    · rw [hfix]
      exact hquiet.publications
    · rw [hfix, hmessage]
      exact (hquiet.report message).2

theorem publishes_changed (uris : List String) (σ : State) :
    (⟨.changed uris, σ⟩ : Turn (serviceCalls s)).Publishes [] := by
  have hasks : (s.configurationChanged uris).Asks Query.Silent :=
    Routine.asks_bind (Routine.asks_step trivial) fun _ =>
      (s.asks_logChanges uris).mono fun q hq => by cases q <;> trivial
  exact ⟨after_of_quiet (hasks.quiet σ), rfl⟩

/-- Every call publishes what is due. -/
theorem publishes (hs : s.LooksUp) (hreport : s.HandsOn) (turn : Turn (serviceCalls s)) :
    turn.Publishes turn.published := by
  obtain ⟨call, σ⟩ := turn
  have hpublishes : ∃ ps, (⟨call, σ⟩ : Turn (serviceCalls s)).Publishes ps := by
    cases call with
    | run uri =>
      cases hlint : (s.lintDocument uri).runOn σ with
      | mk result σ' =>
      cases result with
      | ok linted => exact publishes_linted hs hlint
      | error e => exact publishes_error hs hreport hlint
    | fix uri rule => exact ⟨[], publishes_fix hs hreport uri rule σ⟩
    | closed uri => exact ⟨[(uri, [])], State.publications_emit σ (.published uri []), rfl⟩
    | changed uris => exact ⟨[], publishes_changed uris σ⟩
    | shutdown => exact ⟨[], after_of_quiet ⟨rfl, rfl⟩, rfl⟩
  obtain ⟨ps, hps⟩ := hpublishes
  exact hps.published

end

end Turn

/-! ## Histories -/

/-- Over any history of calls each call publishes what is due, and nothing else is published. -/
theorem publications_due {first now : State} {turns : List (Turn (serviceCalls s.recorded))} (hs : s.LooksUp)
    (h : History (serviceCalls s.recorded) first turns now) :
    (∀ turn ∈ turns, turn.after.publications = turn.before.publications ++ turn.published ∧
      turn.Due turn.published) ∧
    now.publications = first.publications ++ turns.reverse.flatMap Turn.published := by
  have hreport : s.recorded.HandsOn := fun _ => rfl
  have hs : s.recorded.LooksUp := hs
  refine ⟨fun turn _ => ⟨(turn.publishes hs hreport).after, (turn.publishes hs hreport).due⟩, ?_⟩
  induction h with
  | start => simp
  | @next past now turn _ hbetween ih =>
    obtain ⟨host, documents, hbefore⟩ := hbetween
    have hsame : turn.before.publications = now.publications := by
      rw [hbefore]
      rfl
    rw [(turn.publishes hs hreport).after, hsame, ih]
    simp

/-! ## A history with publications -/

/-- The project with a library that finds one failure in every text. -/
def listedProject : State :=
  { sharedProject with
    host := { sharedProject.host with
      replies := fun call =>
        let place := "\x7b\"position\":3,\"line\":0,\"character\":3\x7d"
        let result :=
          if call.cwd = some ⟨.root, []⟩ then "\x7b\x7d"
          else "[\x7b\"ruleName\":\"semi\",\"start\":" ++ place ++ ",\"end\":" ++ place ++ "\x7d]"
        { outcome := .exited 0 (some ("\x7b\"ok\":1,\"result\":" ++ result ++ "\x7d")) none } } }

/-- The documents of the project. -/
def listedUri (name : String) : String := "file:///src/" ++ name

def listedDocuments : DocumentTable := putDocument [] ⟨listedUri "a.ts", "a", 1⟩

/-- Calls on a service of the project, the latest first. One document is not open. -/
def listedCalls : List (ServiceCall × Host × DocumentTable) :=
  [(.closed (listedUri "a.ts"), listedProject.host, []),
    (.fix (listedUri "a.ts") none, listedProject.host, listedDocuments),
    (.run (listedUri "b.ts"), listedProject.host, listedDocuments),
    (.run (listedUri "a.ts"), listedProject.host, listedDocuments)]

/-- The turns of these calls, and the state after them. -/
def listed : List (Turn (serviceCalls (Session.service {}).recorded)) × State :=
  playOn (serviceCalls (Session.service {}).recorded) listedProject listedCalls

theorem publications_due_listed :
    (Session.service {}).LooksUp ∧
      History (serviceCalls (Session.service {}).recorded) listedProject listed.1 listed.2 ∧
      (∀ turn ∈ listed.1, turn.after.publications = turn.before.publications ++ turn.published ∧
        turn.Due turn.published) ∧
      listed.2.publications.map (fun (uri, ds) => (uri, ds.map (·.code))) =
        [(listedUri "a.ts", [some (.ofString "semi")]), (listedUri "b.ts", []), (listedUri "a.ts", [])] := by
  have hlooks : (Session.service {}).LooksUp := Service.looksUp_session {}
  have hplayed : History (serviceCalls (Session.service {}).recorded) listedProject listed.1 listed.2 :=
    history_playOn (serviceCalls (Session.service {}).recorded) listedProject listedCalls
  exact ⟨hlooks, hplayed, (publications_due hlooks hplayed).1, by decide +kernel⟩

end LintBridge
