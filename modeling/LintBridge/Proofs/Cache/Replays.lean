-- SUMMARY: Routines that go the same way from every coherent state as from the beginning of a program.
import LintBridge.Proofs.Cache.Coherent
import LintBridge.Proofs.Routine.Asked

/-!
# Replays

While the host stays as it is, what earlier requests have left in the cache changes neither what a routine
comes to nor what it shows. The log is not part of that: what is found in the cache is not logged again.
-/

namespace LintBridge

variable {α β ε : Type} {settings : Settings} {h : Host}

/-- A routine comes to the same and shows the same from every coherent state as from the beginning of a
program, and leaves a coherent state. -/
structure Routine.Replays (settings : Settings) (h : Host) (r : Routine α) : Prop where
  result : ∀ s, s.Coherent settings h → (r.run s).1 = (r.run h.fresh).1
  shown : ∀ s, s.Coherent settings h → r.shown s = r.shown h.fresh
  coherent : ∀ s, s.Coherent settings h → (r.run s).2.Coherent settings h

namespace Routine

theorem replays_pure (a : α) : (pure a : Routine α).Replays settings h :=
  ⟨fun _ _ => rfl, fun _ _ => rfl, fun _ hs => hs⟩

theorem replays_bind {r : Routine α} {f : α → Routine β} (hr : r.Replays settings h)
    (hf : ∀ a, (f a).Replays settings h) : (r >>= f).Replays settings h := by
  have hfresh := hr.coherent h.fresh h.coherent_fresh
  refine ⟨fun s hs => ?_, fun s hs => ?_, fun s hs => ?_⟩
  · rw [run_bind, run_bind, hr.result s hs, (hf _).result _ (hr.coherent s hs), (hf _).result _ hfresh]
  · rw [shown_bind, shown_bind, hr.shown s hs, hr.result s hs, (hf _).shown _ (hr.coherent s hs),
      (hf _).shown _ hfresh]
  · rw [run_bind]
    exact (hf _).coherent _ (hr.coherent s hs)

/-- A step whose answer is up to the host, and that leaves host and cache. -/
theorem replays_step {q : Query} (hanswer : ∀ s, s.host = h → (q.answer s).1 = (q.answer h.fresh).1)
    (hstate : ∀ s, (q.answer s).2.host = s.host ∧ (q.answer s).2.cache = s.cache) :
    (step q).Replays settings h := by
  refine ⟨fun s hs => hanswer s hs.host, fun _ _ => rfl, fun s hs => ?_⟩
  obtain ⟨hhost, hcache⟩ := hstate s
  exact ⟨hhost.trans hs.host, hcache ▸ hs.cache⟩

/-- A routine with one end that shows nothing. -/
theorem Settles.replays {r : Routine α} (hr : r.Settles settings h) (hshown : r.Asks (Query.shown? · = none)) :
    r.Replays settings h := by
  have hrun (s : State) (hs : s.Coherent settings h) :
      (r.run s).1 = (r.run h.fresh).1 ∧ (r.run s).2.Coherent settings h :=
    hr.coherently.run (fun _ _ _ hkept => hkept) hs
  exact ⟨fun s hs => (hrun s hs).1, fun s _ => (hshown.shown_eq_nil s).trans (hshown.shown_eq_nil _).symm,
    fun s hs => (hrun s hs).2⟩

end Routine

/-! ## Routines that may fail -/

namespace Attempt

/-- A routine that may fail goes the same way from every coherent state. -/
abbrev Replays (settings : Settings) (h : Host) (r : Attempt ε α) : Prop := Routine.Replays settings h r.run

theorem replays_pure (a : α) : (pure a : Attempt ε α).Replays settings h := Routine.replays_pure (Except.ok a)

theorem replays_throw (e : ε) : (throw e : Attempt ε α).Replays settings h :=
  Routine.replays_pure (Except.error e)

theorem replays_ofExcept (r : Except ε α) : (ofExcept r).Replays settings h := Routine.replays_pure r

theorem replays_attempt {r : Routine α} (hr : r.Replays settings h) :
    (r.attempt : Attempt ε α).Replays settings h := Routine.replays_bind hr fun _ => Routine.replays_pure _

theorem replays_bind {r : Attempt ε α} {f : α → Attempt ε β} (hr : r.Replays settings h)
    (hf : ∀ a, (f a).Replays settings h) : (r >>= f).Replays settings h := by
  refine Routine.replays_bind hr fun result => ?_
  cases result with
  | ok a => exact hf a
  | error e => exact Routine.replays_pure _

/-- A sequence whose first part has one end, which is a failure. -/
theorem coherently_bind_error {γ : Type} {view : α → γ} {r : Attempt ε α} {f : α → Attempt ε β} {e : ε}
    (hr : r.run.Coherently settings h (·.map view = .error e)) :
    (r >>= f).run.Coherently settings h (· = .error e) := by
  refine upholds_bind hr ?_ ?_
  · intro a ha
    cases ha
  · intro e' he'
    cases he'
    rfl

/-- A sequence whose first part succeeds with one view of its result, the only one that the rest looks at. -/
theorem coherently_bind_ok {γ : Type} {view : α → γ} {r : Attempt ε α} {f : α → Attempt ε β} {seen : γ}
    {result : Except ε β} (hr : r.run.Coherently settings h (·.map view = .ok seen))
    (hf : ∀ a, view a = seen → (f a).run.Coherently settings h (· = result)) :
    (r >>= f).run.Coherently settings h (· = result) := by
  refine upholds_bind hr ?_ ?_
  · intro a ha
    exact hf a (Except.ok.inj ha)
  · intro e he
    cases he

/-- What succeeds at the beginning of a program succeeds from every coherent state. -/
theorem Replays.runOn_ok {r : Attempt ε α} (hr : r.Replays settings h) {a : α}
    (ha : (r.runOn h.fresh).1 = .ok a) {s : State} (hs : s.Coherent settings h) :
    ∃ s', r.runOn s = (.ok a, s') ∧ s'.Coherent settings h ∧ r.shown s = r.shown h.fresh :=
  ⟨_, Prod.ext ((hr.result s hs).trans ha) rfl, hr.coherent s hs, Routine.Replays.shown hr s hs⟩

end Attempt

/-! ## Lints -/

open Library Attempt

theorem Query.OfLint.shown?_eq {q : Query} (hq : q.OfLint) : q.shown? = none := by
  cases q with
  | publish | report | tell | print => exact hq.elim
  | _ => rfl

theorem Configuration.resolve_eq (settings : Settings) {handle handle' : Handle}
    (hsame : handle.description = handle'.description) (file : Path) :
    resolve settings handle file = resolve settings handle' file := by
  simp only [resolve, loadConfiguration_eq settings hsame]

theorem Bridge.lint_eq (settings : Settings) {handle handle' : Handle}
    (hsame : handle.description = handle'.description) (job : LintJob) :
    lint settings handle job = lint settings handle' job := by
  obtain ⟨path, _, _, _, generation⟩ := handle
  obtain ⟨path', _, _, _, generation'⟩ := handle'
  simp only [Handle.description, Description.mk.injEq] at hsame
  obtain ⟨rfl, -, -, rfl⟩ := hsame
  rfl

theorem Service.asks_lintWith (s : Service) (file : Path) (document : Document) (handle : Handle)
    (configuration : Configuration) : (s.lintWith file document handle configuration).Asks Query.OfHost := by
  refine asks_bind (Bridge.asks_lint ..) fun failures => ?_
  exact asks_bind (asks_attempt (Routine.asks_logged fun _ h => h)) fun _ => asks_pure _

theorem Service.lintWith_eq (s : Service) (file : Path) (document : Document) {handle handle' : Handle}
    (hsame : handle.description = handle'.description) (configuration : Configuration) :
    s.lintWith file document handle configuration = s.lintWith file document handle' configuration := by
  rw [lintWith, Bridge.lint_eq s.settings hsame, lintWith]

/-- What the lint of a document comes to is up to the host. -/
theorem Service.settles_failuresOf (hstill : h.Still) (s : Service) (file : Path) (document : Document) :
    (s.failuresOf file document).run.Settles s.settings h := by
  have hlibrary : (libraryFor s.settings file).run.Coherently s.settings h _ := coherently_libraryFor hstill file
  cases huncached : uncached s.settings h file with
  | error e =>
    rw [huncached] at hlibrary
    exact ⟨.error e, coherently_bind_error hlibrary⟩
  | ok handle =>
    rw [huncached] at hlibrary
    -- an adapter that is served may have been found through another source, but has the same description
    have hconfiguration (adapter : Adapter) (hadapter : adapter.handle.description = handle.description) :
        (configurationFor s.settings file adapter).run.Coherently s.settings h fun result =>
          result.map (·.configuration) = Configuration.uncached s.settings h handle file := by
      have hfound : (uncached s.settings h file).map Handle.description = .ok adapter.handle.description := by
        simp [huncached, Except.map, hadapter]
      have hresolve : Configuration.uncached s.settings h adapter.handle file =
          Configuration.uncached s.settings h handle file := by
        simp only [Configuration.uncached, Configuration.resolve_eq s.settings hadapter]
      exact hresolve ▸ coherently_configurationFor hstill file adapter hfound
    cases hloaded : Configuration.uncached s.settings h handle file with
    | error e =>
      rw [hloaded] at hconfiguration
      refine ⟨.error e, coherently_bind_ok hlibrary ?_⟩
      intro adapter hadapter
      exact coherently_bind_error (hconfiguration adapter hadapter)
    | ok configuration =>
      rw [hloaded] at hconfiguration
      have hasks : Routine.Asks Query.OfHost (s.lintWith file document handle configuration).run :=
        s.asks_lintWith file document handle configuration
      obtain ⟨result, hresult⟩ : (s.lintWith file document handle configuration).run.Settles s.settings h :=
        hasks.settles hstill
      refine ⟨result, coherently_bind_ok hlibrary ?_⟩
      intro adapter hadapter
      refine coherently_bind_ok (hconfiguration adapter hadapter) ?_
      rintro found rfl
      rw [← s.lintWith_eq file document hadapter] at hresult
      exact hresult

/-- A lint logs, but shows nothing. -/
theorem Service.replays_failuresOf (hstill : h.Still) (s : Service) (file : Path) (document : Document) :
    (s.failuresOf file document).Replays s.settings h := by
  have hasks : Routine.Asks Query.OfLint (s.failuresOf file document).run := s.asks_failuresOf file document
  exact (s.settles_failuresOf hstill file document).replays (hasks.mono fun _ => Query.OfLint.shown?_eq)

/-- A run goes the same way from every coherent state, if document store and reports do. -/
theorem Service.replays_runLint (hstill : h.Still) (s : Service) (uri : String)
    (hstore : (s.documents uri).Replays s.settings h)
    (hreport : ∀ message, (s.report message).Replays s.settings h) : (s.runLint uri).Replays s.settings h := by
  have hpublish (diagnostics : List Diagnostic) :
      Replays s.settings h (Attempt.step (.publish uri diagnostics) : Attempt LintError Unit) :=
    replays_attempt (Routine.replays_step (fun _ _ => rfl) fun _ => ⟨rfl, rfl⟩)
  have hlint : (s.lintDocument uri).Replays s.settings h := by
    refine replays_bind (replays_bind (replays_ofExcept _) fun file => ?_) fun (file, document) => ?_
    · refine replays_bind (replays_bind hstore fun found => ?_) fun document => replays_pure _
      cases found with
      | none => exact replays_throw _
      | some document => exact replays_pure _
    · exact replays_bind (s.replays_failuresOf hstill file document) fun _ => replays_pure _
  refine replays_bind (replays_attempt hlint) fun lint => ?_
  cases lint with
  | ok lint =>
    refine replays_bind (replays_ofExcept _) fun diagnostics => ?_
    exact replays_bind (hpublish diagnostics) fun _ => replays_pure _
  | error e =>
    have hreported : Replays s.settings h ((s.reportRun e).attempt : Attempt LintError Unit) :=
      replays_attempt (hreport _)
    dsimp only
    cases e.treatment with
    | foreign => exact replays_bind hreported fun _ => replays_pure _
    | fatal => exact replays_bind hreported fun _ => replays_bind (hpublish []) fun _ => replays_throw _
    | unresolved => exact replays_bind hreported fun _ => replays_bind (hpublish []) fun _ => replays_pure _
    | passed => exact replays_throw _

end LintBridge
