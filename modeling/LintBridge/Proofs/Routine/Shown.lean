-- SUMMARY: What a run reports and publishes, and the routines that do neither.
import LintBridge.Proofs.Routine.Asks

/-!
# Reports and publications

The trace of a run holds the errors that were reported and the diagnostics that were published, in order.
A routine that asks for neither leaves both as they are, whatever else it shows.
-/

namespace LintBridge

/-- The message of a report. -/
def Event.report? : Event → Option Text.Codes
  | .reported message => some message
  | _ => none

/-- The diagnostics that an event publishes, with their URI. -/
def Event.publication? : Event → Option (String × List Diagnostic)
  | .published uri diagnostics => some (uri, diagnostics)
  | _ => none

namespace State

/-- The errors that have been reported. -/
def reports (s : State) : List Text.Codes := s.trace.filterMap Event.report?

/-- The diagnostics that have been published. -/
def publications (s : State) : List (String × List Diagnostic) := s.trace.filterMap Event.publication?

/-- Nothing is reported or published from one state to another. -/
structure Quiet (s s' : State) : Prop where
  reports : s'.reports = s.reports
  publications : s'.publications = s.publications

theorem Quiet.refl (s : State) : Quiet s s := ⟨rfl, rfl⟩

theorem Quiet.trans {s s' s'' : State} (h : Quiet s s') (h' : Quiet s' s'') : Quiet s s'' :=
  ⟨h'.reports.trans h.reports, h'.publications.trans h.publications⟩

theorem reports_emit (s : State) (e : Event) : (s.emit e).reports = s.reports ++ e.report?.toList := by
  cases he : e.report? <;> simp [reports, emit, he]

theorem publications_emit (s : State) (e : Event) :
    (s.emit e).publications = s.publications ++ e.publication?.toList := by
  cases he : e.publication? <;> simp [publications, emit, he]

/-- Other events are no reports and publish nothing. -/
theorem quiet_emit (s : State) {e : Event} (hreport : e.report? = none)
    (hpublication : e.publication? = none) : Quiet s (s.emit e) := by
  refine ⟨?_, ?_⟩
  · rw [reports_emit, hreport]
    exact List.append_nil _
  · rw [publications_emit, hpublication]
    exact List.append_nil _

/-- After a report, and before it a quiet run, one more error has been reported. -/
theorem Quiet.report {s s' : State} (h : Quiet s s') (message : Text.Codes) :
    (s'.emit (.reported message)).reports = s.reports ++ [message] ∧
      (s'.emit (.reported message)).publications = s.publications := by
  rw [reports_emit, publications_emit, h.reports, h.publications]
  exact ⟨rfl, List.append_nil _⟩

theorem Quiet.report_publish {s s' : State} (h : Quiet s s') (message : Text.Codes) (uri : String)
    (ds : List Diagnostic) :
    ((s'.emit (.reported message)).emit (.published uri ds)).reports = s.reports ++ [message] ∧
      ((s'.emit (.reported message)).emit (.published uri ds)).publications =
        s.publications ++ [(uri, ds)] := by
  obtain ⟨hreports, hpublications⟩ := h.report message
  rw [reports_emit, publications_emit, hreports, hpublications]
  exact ⟨List.append_nil _, rfl⟩

theorem quiet_log (s : State) (record : Log.Record) : Quiet s (s.log record) :=
  log_keeps .refl (fun _ _ _ => .trans) (fun s _ => quiet_emit s rfl rfl) (fun s _ => quiet_emit s rfl rfl)
    (fun s _ => quiet_emit s rfl rfl) s record

end State

/-! ## Silent routines -/

/-- A question that neither reports nor publishes. -/
def Query.Silent : Query → Prop
  | .report _ | .publish .. => False
  | _ => True

theorem Query.quiet_answer {q : Query} (hq : q.Silent) (s : State) : s.Quiet (q.answer s).2 := by
  cases q with
  | report message => exact hq.elim
  | publish uri diagnostics => exact hq.elim
  | log record => exact State.quiet_log s record
  | start call =>
    have hstarted : s.Quiet { s with host := (s.host.start call).2 } := ⟨rfl, rfl⟩
    exact hstarted.trans (State.quiet_emit _ rfl rfl)
  | tell kind message => exact State.quiet_emit s rfl rfl
  | print stream text => exact State.quiet_emit s rfl rfl
  | restart settings =>
    exact ⟨by rw [State.reports, Query.answer, State.trace_apply]; rfl,
      by rw [State.publications, Query.answer, State.trace_apply]; rfl⟩
  | _ => exact ⟨rfl, rfl⟩

/-- A routine that asks silent questions only is quiet. -/
theorem Routine.Asks.quiet {α : Type} {r : Routine α} (h : r.Asks Query.Silent) (s : State) :
    s.Quiet (r.run s).2 :=
  h.run .refl (fun _ _ _ => .trans) (fun _ s hq => Query.quiet_answer hq s) s

end LintBridge
