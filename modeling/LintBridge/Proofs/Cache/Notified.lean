-- SUMMARY: Configurations are current after the files have changed and a notification, unless a look-up overlaps both.
import LintBridge.Proofs.Cache.Transparent

/-!
# Configurations after a notification

A notification drops all configurations, so look-ups that begin later should find what the files say now.
They do unless a look-up for the same directory began before the change and has not ended when the
notification begins: it may store, after everything was dropped, what it has found in the files as they
were. The entry of a directory may also come from another file of the directory, with the adapter that was
found for that one.
-/

namespace LintBridge

open Library

variable {settings : Settings} {h : Host} {directory : Path} {used : CacheCall → Prop} {B : State → Prop}

/-- The configuration that is kept for a directory. -/
def State.kept? (s : State) (directory : Path) : Option LoadedConfiguration :=
  Table.find? s.cache.configurations directory

/-- One of some look-ups for a directory comes to this on a host without a cache. -/
def Current (settings : Settings) (h : Host) (directory : Path) (used : CacheCall → Prop)
    (outcome : Except LintError Configuration) : Prop :=
  ∃ file adapter, file.parent = directory ∧ used (.configuration file adapter) ∧
    outcome = Configuration.uncached settings h adapter.handle file

/-- Nothing else is kept for a directory. -/
def State.IsCurrent (settings : Settings) (h : Host) (directory : Path) (used : CacheCall → Prop)
    (s : State) : Prop :=
  ∀ found, s.kept? directory = some found → Current settings h directory used (.ok found.configuration)

/-- A step leaves what is kept for a directory, or makes it current. -/
def Refreshes (settings : Settings) (h : Host) (directory : Path) (used : CacheCall → Prop)
    (s s' : State) : Prop :=
  s'.kept? directory = s.kept? directory ∨ s'.IsCurrent settings h directory used

/-- A call is a look-up of the configuration of a directory. -/
def CacheCall.IsFor (directory : Path) : CacheCall → Prop
  | .configuration file _ => file.parent = directory
  | _ => False

/-- A look-up comes to what was kept for its directory, in a state of some kind, or to what it finds
itself. -/
def CacheCall.Serves (settings : Settings) (h : Host) (B : State → Prop) :
    (call : CacheCall) → call.Result → Prop
  | .configuration file adapter, result =>
    (∃ s found, B s ∧ s.kept? file.parent = some found ∧ result = .ok found) ∨
      result.map (·.configuration) = Configuration.uncached settings h adapter.handle file
  | _, _ => True

theorem State.IsCurrent.refreshes {s s' : State} (hs : s.IsCurrent settings h directory used)
    (hstep : Refreshes settings h directory used s s') : s'.IsCurrent settings h directory used := by
  rcases hstep with hsame | hcurrent
  · intro found hfound
    exact hs found (hsame.symm.trans hfound)
  · exact hcurrent

theorem State.isCurrent_of_none {s : State} (hs : s.kept? directory = none) :
    s.IsCurrent settings h directory used := by
  intro found hfound
  rw [hs] at hfound
  cases hfound

/-! ## Steps of calls -/

/-- Calls leave a still host as it is. -/
theorem CacheCall.keepsHost (call : CacheCall) : (call.routine settings).Upholds (fun _ => True)
    (fun s s' => s.host.Still → s'.host = s.host) fun _ => True := by
  have hlint {α : Type} {r : Routine α} (hr : r.Asks Query.OfLint) : r.Upholds (fun _ => True)
      (fun s s' => s.host.Still → s'.host = s.host) fun _ => True :=
    hr.upholds fun q s hq _ hstill => hq.host_answer hstill
  cases call with
  | library file => exact hlint (asks_libraryFor settings file).ofLint
  | configuration file adapter => exact hlint (asks_configurationFor settings file adapter)
  | clearConfigurations =>
    exact Routine.upholds_step (q := .dropConfigurations) fun s _ => ⟨fun _ => rfl, trivial⟩
  | clear => exact Routine.upholds_step (q := .clearCache) fun s _ => ⟨fun _ => rfl, trivial⟩
  | changed uris =>
    exact Routine.upholds_step_bind fun s _ =>
      ⟨fun _ => rfl, hlint (Service.asks_logChanges _ uris).ofLibrary.ofLint⟩

theorem State.kept?_of_cache {s s' : State} (hcache : s'.cache = s.cache) :
    s'.kept? directory = s.kept? directory := by
  unfold State.kept?
  rw [hcache]

theorem Query.OfLibrary.kept?_answer {q : Query} (hq : q.OfLibrary) (s : State) :
    (q.answer s).2.kept? directory = s.kept? directory := by
  cases q with
  | log record => exact State.kept?_of_cache (s.cache_log record)
  | libraryOf file =>
    change Table.find? (s.cache.libraryOf file).2.configurations directory = _
    rw [Cache.libraryOf]
    split
    next => rfl
    next => rfl
  | platform | environment | executable | isFile | realPath | read | start => rfl
  | packageAt | keepPackage | keepLibrary | rootOf | keepRoot => rfl
  | _ => exact hq.elim

theorem State.kept?_configurationOf (s : State) (other : Path) :
    ((Query.configurationOf other).answer s).2.kept? directory = s.kept? directory := by
  change Table.find? (s.cache.configurationOf other).2.configurations directory = _
  rw [Cache.configurationOf]
  split
  next => rfl
  next => rfl

theorem State.kept?_keepConfiguration (s : State) (other : Path) (configuration : Configuration) :
    ((Query.keepConfiguration other configuration).answer s).2.kept? directory =
      if other = directory then some ((Query.keepConfiguration other configuration).answer s).1
      else s.kept? directory := Table.find?_put ..

/-- Other calls leave what is kept for a directory, or drop it. -/
theorem CacheCall.keepsEntry {call : CacheCall} (hcall : ¬ call.IsFor directory) :
    (call.routine settings).Upholds (fun _ => True)
      (fun s s' => s'.kept? directory = s.kept? directory ∨ s'.kept? directory = none) fun _ => True := by
  have hlibrary {α : Type} {r : Routine α} (hr : r.Asks Query.OfLibrary) : r.Upholds (fun _ => True)
      (fun s s' => s'.kept? directory = s.kept? directory ∨ s'.kept? directory = none) fun _ => True :=
    hr.upholds fun q s hq _ => .inl (hq.kept?_answer s)
  cases call with
  | library file => exact hlibrary (asks_libraryFor settings file)
  | configuration file adapter =>
    refine Attempt.upholds_step_bind fun s _ => ⟨.inl (s.kept?_configurationOf file.parent), ?_⟩
    cases ((Query.configurationOf file.parent).answer s).1 with
    | some found => exact Attempt.upholds_pure trivial
    | none =>
      have hresolve := hlibrary (Configuration.asks_resolve settings adapter.handle file).ofLibrary
      refine Attempt.upholds_bind hresolve (fun configuration _ => ?_) fun _ _ => trivial
      refine Attempt.upholds_step (q := .keepConfiguration _ _) fun s _ => ⟨.inl ?_, trivial⟩
      rw [s.kept?_keepConfiguration]
      exact if_neg hcall
  | clearConfigurations =>
    exact Routine.upholds_step (q := .dropConfigurations) fun s _ => ⟨.inr rfl, trivial⟩
  | clear => exact Routine.upholds_step (q := .clearCache) fun s _ => ⟨.inr rfl, trivial⟩
  | changed uris =>
    exact Routine.upholds_step_bind fun s _ =>
      ⟨.inr rfl, hlibrary (Service.asks_logChanges _ uris).ofLibrary⟩

/-- A look-up of a configuration changes what is kept for its directory only to what it finds itself. -/
theorem upholds_configurationFor (hstill : h.Still) (file : Path) (adapter : Adapter)
    (hused : used (.configuration file adapter)) :
    (configurationFor settings file adapter).run.Upholds (fun s => s.host = h ∧ B s)
      (Refreshes settings h file.parent used)
      (CacheCall.Serves settings h B (.configuration file adapter)) := by
  refine Attempt.upholds_step_bind fun s hs => ⟨.inl (s.kept?_configurationOf file.parent), ?_⟩
  cases hknown : ((Query.configurationOf file.parent).answer s).1 with
  | some found =>
    have hfound := (s.cache.configurationOf_fst file.parent).symm.trans hknown
    exact Attempt.upholds_pure (.inl ⟨s, found, hs.2, hfound, rfl⟩)
  | none =>
    have hresolve := (Configuration.asks_resolve settings adapter.handle file).settled hstill
      (s := h.fresh) rfl
    refine Attempt.upholds_bind (hresolve.mono (fun s hs => hs.1) ?_ fun _ ha => ha) ?_ ?_
    · intro s s' _ hkept
      exact .inl (State.kept?_of_cache hkept.2)
    · intro configuration hconfiguration
      have huncached : Configuration.uncached settings h adapter.handle file = .ok configuration :=
        hconfiguration.symm
      refine Attempt.upholds_step (q := .keepConfiguration _ _) fun s _ => ⟨.inr ?_, .inr huncached.symm⟩
      intro found hfound
      rw [s.kept?_keepConfiguration, if_pos rfl] at hfound
      cases hfound
      exact ⟨file, adapter, rfl, hused, huncached.symm⟩
    · intro e he
      have huncached : Configuration.uncached settings h adapter.handle file = .error e := he.symm
      exact .inr huncached.symm

/-- A call leaves what is kept for a directory, or refreshes it, if it is among the look-ups that are used. -/
theorem CacheCall.refreshes (hstill : h.Still) (call : CacheCall) (hused : used call) :
    (call.routine settings).Upholds (fun s => s.host = h ∧ B s) (Refreshes settings h directory used)
      fun result => call.IsFor directory → call.Serves settings h B result := by
  by_cases hcall : call.IsFor directory
  · cases call with
    | configuration file adapter =>
      subst hcall
      exact (upholds_configurationFor hstill file adapter hused).mono (fun _ hs => hs) (fun _ _ _ hs => hs)
        fun _ hresult _ => hresult
    | _ => exact hcall.elim
  · refine (CacheCall.keepsEntry hcall).mono (fun _ _ => trivial) ?_ fun _ _ hfor => absurd hfor hcall
    intro s s' _ hkept
    exact hkept.imp_right State.isCurrent_of_none

/-! ## Runs -/

open Pool

variable {p p' p₀ p₁ p₂ p₃ : Pool (cacheCalls settings)} {uris : List String}

/-- The files have changed for the last time at `p₀`, a notification of it begins at `p₁` and has been
processed at `p₂`, and calls go on to `p₃`. -/
structure Notified (uris : List String) (p₀ p₁ p₂ p₃ : Pool (cacheCalls settings)) : Prop where
  changed : ∃ s, Reaches (callingAndChanging settings) ⟨s, []⟩ p₀
  waited : Reaches (calling settings) p₀ p₁
  notified : Reaches (calling settings) (p₁.receive p₁.state [.changed uris]) p₂
  processed : ∃ task, p₂.tasks[p₁.tasks.length]? = some task ∧ task.IsDone
  after : Reaches (calling settings) p₂ p₃

/-- All tasks of a pool leave a host as it is. -/
abbrev HoldsHost (h : Host) (p : Pool (cacheCalls settings)) : Prop :=
  p.Upholds (·.host = h) (fun _ s' => s'.host = h) (fun _ _ => True) fun _ _ _ => True

theorem CacheCall.holdsHost (hstill : h.Still) (call : CacheCall) :
    (call.routine settings).Upholds (·.host = h) (fun _ s' => s'.host = h) fun _ => True :=
  (CacheCall.keepsHost call).mono (fun _ _ => trivial) (fun _ _ hs hkept => (hkept (hs ▸ hstill)).trans hs)
    fun _ _ => trivial

theorem holdsHost_of_reaches (hstill : h.Still) {s : State}
    (hrun : Reaches (callingAndChanging settings) ⟨s, []⟩ p) : HoldsHost h p := by
  -- while the host still changes, all that can be said of a step is that it is not the one to change it
  have hkeeps : Keeps (callingAndChanging settings) (fun _ => True) (fun _ => True)
      (fun s s' => s.host.Still → s'.host = s.host) (fun _ _ => True) fun _ _ _ => True :=
    ⟨fun _ _ _ _ _ call _ _ _ _ => CacheCall.keepsHost call, fun _ _ _ _ _ _ => trivial⟩
  obtain ⟨hp, -⟩ := (upholds_begin s).runs hkeeps hrun trivial
  exact hp.mono (fun _ _ => trivial) (fun _ _ hs hkept => (hkept (hs ▸ hstill)).trans hs)
    fun _ _ _ _ => ⟨trivial, fun _ _ => trivial⟩

/-- While calls are started and nothing else happens, a still host stays as it is. -/
theorem HoldsHost.confined (hstill : h.Still) (hp : HoldsHost h p) (hhost : p.state.host = h)
    (hrun : Reaches (calling settings) p p') :
    Runs (calling settings) (·.host = h) p p' ∧ HoldsHost h p' ∧ p'.state.host = h := by
  have hkeeps : Keeps (calling settings) (fun _ => True) (·.host = h) (fun _ s' => s'.host = h)
      (fun _ _ => True) fun _ _ _ => True := by
    refine ⟨fun _ _ _ _ _ call _ _ _ _ => call.holdsHost hstill, ?_⟩
    intro q r hstep hq hs _
    rcases hq.state_cases hstep hs with hsame | hkept | ⟨calls, hsame⟩
    · exact hsame ▸ hs
    · exact hkept
    · exact hsame ▸ hs
  exact ⟨Upholds.confined hkeeps hrun hp hhost, Upholds.runs hkeeps hrun hp hhost⟩

/-! ## Before the change -/

/-- Tasks that look up other configurations, or none, leave what is kept for a directory, or drop it. -/
theorem keepsEntry_of_reaches {s : State} (hrun : Reaches (callingAndChanging settings) ⟨s, []⟩ p) :
    p.Upholds (fun _ => True)
      (fun s s' => s'.kept? directory = s.kept? directory ∨ s'.kept? directory = none)
      (fun _ (call : CacheCall) => ¬ call.IsFor directory) fun _ _ _ => True := by
  have hkeeps : Keeps (callingAndChanging settings) (fun _ => True) (fun _ => True)
      (fun s s' => s'.kept? directory = s.kept? directory ∨ s'.kept? directory = none)
      (fun _ (call : CacheCall) => ¬ call.IsFor directory) fun _ _ _ => True :=
    ⟨fun _ _ _ _ _ _ _ _ _ hcall => CacheCall.keepsEntry hcall, fun _ _ _ _ _ _ => trivial⟩
  exact ((upholds_begin s).runs hkeeps hrun trivial).1

/-! ## After the change -/

/-- Calls are started of which all are used, and nothing else happens. -/
def callingUsed (settings : Settings) (used : CacheCall → Prop) : Surroundings (cacheCalls settings) :=
  fun p s calls => s = p.state ∧ ∀ call ∈ calls, used call

/-- The tasks of a pool that are meant refresh what is kept for a directory, and those from a number on are
served from states of some kind, or find what they come to. -/
abbrev Refreshing (h : Host) (directory : Path) (used : CacheCall → Prop) (B : State → Prop) (n : Nat)
    (meant : Nat → CacheCall → Prop) (p : Pool (cacheCalls settings)) : Prop :=
  p.Upholds (fun s => s.host = h ∧ B s) (Refreshes settings h directory used) meant
    fun i (call : CacheCall) result => n ≤ i → call.IsFor directory → call.Serves settings h B result

variable {n : Nat} {meant : Nat → CacheCall → Prop}

/-- Calls that are used refresh, and what is relied on stays when all tasks refresh it. -/
theorem keeps_callingUsed (hstill : h.Still)
    (hB : ∀ q r : Pool (cacheCalls settings), Refreshing h directory used B n meant q →
      Step (callingUsed settings used) q r → q.state.host = h → B q.state → B r.state) :
    Keeps (callingUsed settings used) (·.host = h) (fun s => s.host = h ∧ B s)
      (Refreshes settings h directory used) meant
      fun i (call : CacheCall) result => n ≤ i → call.IsFor directory → call.Serves settings h B result where
  calls _ _ _ hcalling _ call hcall _ _ _ :=
    (CacheCall.refreshes hstill call (hcalling.2 call hcall)).mono (fun _ hs => hs) (fun _ _ _ hs => hs)
      fun _ hserves _ => hserves
  states q r hstep hq hs hhost := ⟨hhost, hB q r hq hstep hs.1 hs.2⟩

theorem keeps_callingUsed_any (hstill : h.Still) :
    Keeps (callingUsed settings used) (·.host = h) (fun s => s.host = h ∧ True)
      (Refreshes settings h directory used) meant
      fun i (call : CacheCall) result =>
        n ≤ i → call.IsFor directory → call.Serves settings h (fun _ => True) result :=
  keeps_callingUsed hstill fun _ _ _ _ _ _ => trivial

/-- A notification that has been processed has left nothing that is not current. -/
theorem Refreshing.isCurrent_of_notified (hstill : h.Still)
    (hp : Refreshing h directory used (fun _ => True) n (fun _ _ => True) p) (hhost : p.state.host = h)
    (hused : used (.changed uris))
    (hrun : Runs (callingUsed settings used) (·.host = h) (p.receive p.state [.changed uris]) p')
    (hprocessed : ∃ task, p'.tasks[p.tasks.length]? = some task ∧ task.IsDone) :
    p'.state.IsCurrent settings h directory used ∧
      Refreshing h directory used (fun _ => True) n (fun _ _ => True) p' := by
  have hcalling : callingUsed settings used p p.state [.changed uris] := by
    refine ⟨rfl, fun call hcall => ?_⟩
    rw [List.mem_singleton.1 hcall]
    exact hused
  have hbegun : Refreshing h directory used (fun _ => True) n (fun _ _ => True)
      (p.receive p.state [.changed uris]) :=
    Upholds.step (keeps_callingUsed_any hstill) (.receive hcalling) hp ⟨hhost, trivial⟩
  have htask := p.getElem?_receive_single p.state (.changed uris)
  have hgood : ∀ s s', s.host = h ∧ True → Refreshes settings h directory used s s' →
      s.IsCurrent settings h directory used → s'.IsCurrent settings h directory used :=
    fun _ _ _ hstep hs => hs.refreshes hstep
  refine ⟨?_, (Upholds.runs (keeps_callingUsed_any hstill) hrun hbegun ⟨hhost, trivial⟩).1⟩
  rcases Upholds.brings (keeps_callingUsed_any hstill) hgood (fun _ _ _ hsame _ hs => hsame.1 ▸ hs)
    (fun _ _ => State.isCurrent_of_none rfl) hrun hbegun ⟨hhost, trivial⟩ htask with hwaits | hcurrent
  · obtain ⟨task, htask', result, hdone⟩ := hprocessed
    cases hwaits.symm.trans htask'
    cases hdone
  · exact hcurrent

/-- After the notification what is kept for a directory stays current, and later tasks can rely on it. -/
theorem Refreshing.stays (hstill : h.Still)
    (hp : Refreshing h directory used (fun _ => True) n (fun _ _ => True) p) (hn : p.tasks.length ≤ n)
    (hhost : p.state.host = h) (hcurrent : p.state.IsCurrent settings h directory used)
    (hrun : Runs (callingUsed settings used) (·.host = h) p p') :
    Refreshing h directory used (State.IsCurrent settings h directory used) n (fun _ _ => True) p' := by
  have hbegin : Refreshing h directory used (State.IsCurrent settings h directory used) n
      (fun _ _ => True) p := by
    refine hp.mono (fun s hs => ⟨hs.1, trivial⟩) (fun _ _ _ hstep => hstep) ?_
    intro j task hj _
    obtain ⟨hj, -⟩ := List.getElem?_eq_some_iff.1 hj
    exact ⟨trivial, fun _ _ hlater => absurd (hn.trans hlater) (Nat.not_le.2 hj)⟩
  refine (Upholds.runs (keeps_callingUsed hstill ?_) hrun hbegin ⟨hhost, hcurrent⟩).1
  intro q r hq hstep hs hB
  rcases hq.state_cases hstep ⟨hs, hB⟩ with hsame | hstep | ⟨calls, hsame, -⟩
  · exact hsame ▸ hB
  · exact hB.refreshes hstep
  · exact hsame ▸ hB

/-! ## Look-ups after the notification -/

/-- A look-up for a directory that began before the files changed has not ended when the notification
begins. -/
def Overlaps (directory : Path) (p₀ p₁ : Pool (cacheCalls settings)) : Prop :=
  ∃ i task, p₁.tasks[i]? = some task ∧ i < p₀.tasks.length ∧ task.call.IsFor directory ∧ ¬ task.IsDone

theorem length_le_of_calls (hcalls : p.calls <+: p'.calls) : p.tasks.length ≤ p'.tasks.length := by
  simpa [Pool.calls] using hcalls.length_le

/-- The calls that are started in a part of a run are used in the run. -/
theorem callingUsed_of_runs {during : State → Prop} (hrun : Runs (calling settings) during p p')
    (hn : n ≤ p.tasks.length) (hlater : p'.calls <+: p₃.calls) :
    Runs (callingUsed settings (· ∈ p₃.calls.drop n)) during p p' := by
  refine hrun.among.mono (fun q s calls hcalling => ⟨hcalling.1, fun call hcall => ?_⟩) fun _ hs => hs
  have hlate : call ∈ p₃.calls.drop p.tasks.length := (hlater.drop _).subset (hcalling.2 call hcall)
  exact List.drop_subset_drop_left _ hn hlate

/-- A call was started after the files had changed for the last time. -/
abbrev StartedSince (p₀ p₃ : Pool (cacheCalls settings)) (call : CacheCall) : Prop :=
  call ∈ p₃.calls.drop p₀.tasks.length

theorem Notified.changed_mem (h : Notified uris p₀ p₁ p₂ p₃) :
    p₀.tasks.length ≤ p₂.tasks.length ∧ StartedSince p₀ p₃ (.changed uris) := by
  have hlength : p₀.tasks.length ≤ p₁.calls.length := by
    simpa [Pool.calls] using length_le_of_calls h.waited.calls
  have hcalls : p₁.calls ++ [.changed uris] <+: p₂.calls := by
    simpa using h.notified.calls
  refine ⟨length_le_of_calls (h.waited.calls.trans ((List.prefix_append _ _).trans hcalls)), ?_⟩
  refine ((hcalls.trans h.after.calls).drop _).subset ?_
  rw [List.drop_append_of_le_length hlength]
  exact List.mem_append_right _ (List.mem_singleton_self _)

/-- Since the files have changed, only calls of that time are started and nothing changes the host. -/
theorem Notified.confined (h : Notified uris p₀ p₁ p₂ p₃) (hstill : p₀.state.host.Still) :
    Runs (callingUsed settings (StartedSince p₀ p₃)) (·.host = p₀.state.host) p₀ p₁ ∧
      Runs (callingUsed settings (StartedSince p₀ p₃)) (·.host = p₀.state.host)
        (p₁.receive p₁.state [.changed uris]) p₂ ∧
      Runs (callingUsed settings (StartedSince p₀ p₃)) (·.host = p₀.state.host) p₂ p₃ ∧
      p₁.state.host = p₀.state.host ∧ p₂.state.host = p₀.state.host := by
  have hbegins : Reaches (calling settings) p₁ (p₁.receive p₁.state [.changed uris]) :=
    .tail .refl (.receive rfl) trivial
  obtain ⟨s, hchanged⟩ := h.changed
  obtain ⟨hrun₁, hheld₁, hhost₁⟩ := (holdsHost_of_reaches hstill hchanged).confined hstill rfl h.waited
  obtain ⟨-, hheld, hhost⟩ := hheld₁.confined hstill hhost₁ hbegins
  obtain ⟨hrun₂, hheld₂, hhost₂⟩ := hheld.confined hstill hhost h.notified
  obtain ⟨hrun₃, -, -⟩ := hheld₂.confined hstill hhost₂ h.after
  -- the calls of each pool come before those of the later ones
  have hcalls₂ := h.notified.calls.trans h.after.calls
  have hlength := length_le_of_calls (h.waited.calls.trans hbegins.calls)
  have hlength₂ := hlength.trans (length_le_of_calls h.notified.calls)
  exact ⟨callingUsed_of_runs hrun₁ le_rfl (hbegins.calls.trans hcalls₂),
    callingUsed_of_runs hrun₂ hlength h.after.calls, callingUsed_of_runs hrun₃ hlength₂ List.prefix_rfl,
    hhost₁, hhost₂⟩

/-- When the notification begins, all tasks refresh, unless one from before the change overlaps. -/
theorem refreshing_of_changed (hstill : h.Still) {s : State}
    (hchanged : Reaches (callingAndChanging settings) ⟨s, []⟩ p₀) (hhost : p₀.state.host = h)
    (hrun : Runs (callingUsed settings used) (·.host = h) p₀ p₁)
    (hoverlaps : ¬ Overlaps directory p₀ p₁) (hn : p₀.tasks.length ≤ n) :
    Refreshing h directory used (fun _ => True) n (fun _ _ => True) p₁ := by
  have hbegin : Refreshing h directory used (fun _ => True) n
      (fun i call => call.IsFor directory → p₀.tasks.length ≤ i) p₀ := by
    refine (keepsEntry_of_reaches hchanged).mono (fun _ _ => trivial)
      (fun _ _ _ hkept => hkept.imp_right State.isCurrent_of_none) ?_
    intro i task hi hlate
    obtain ⟨hi, -⟩ := List.getElem?_eq_some_iff.1 hi
    have hother : ¬ task.call.IsFor directory := fun hfor => absurd hi (Nat.not_lt.2 (hlate hfor))
    exact ⟨hother, fun _ _ _ hfor => absurd hfor hother⟩
  have hlate := (Upholds.runs (keeps_callingUsed_any hstill) hrun hbegin ⟨hhost, trivial⟩).1
  intro i task hi _
  by_cases hearly : i < p₀.tasks.length ∧ task.call.IsFor directory
  · -- it has ended, since it would overlap otherwise
    have hdone : task.IsDone := by
      by_contra hdone
      exact hoverlaps ⟨i, task, hi, hearly.1, hearly.2, hdone⟩
    obtain ⟨result, hresult⟩ := hdone
    rw [hresult, Routine.upholds_done_iff]
    intro hlater
    exact absurd (hn.trans hlater) (Nat.not_le.2 hearly.1)
  · exact hlate i task hi fun hfor => Nat.not_lt.1 fun hlt => hearly ⟨hlt, hfor⟩

/-- A look-up for the directory of a file comes to this on a host without a cache, through a library that is
not the one of the file. -/
def Borrowed (settings : Settings) (h : Host) (used : CacheCall → Prop) (file : Path) (adapter : Adapter)
    (outcome : Except LintError Configuration) : Prop :=
  ∃ file' adapter', file'.parent = file.parent ∧ used (.configuration file' adapter') ∧
    adapter'.handle.description ≠ adapter.handle.description ∧
      outcome = Configuration.uncached settings h adapter'.handle file'

/-- While everything that is kept is current, a look-up comes to what it finds itself, or borrows. -/
theorem uncached_or_borrowed (hstill : h.Still) {file : Path} {adapter : Adapter}
    {result : Except LintError LoadedConfiguration}
    (hserves : CacheCall.Serves settings h (State.IsCurrent settings h file.parent used)
      (.configuration file adapter) result) :
    result.map (·.configuration) = Configuration.uncached settings h adapter.handle file ∨
      Borrowed settings h used file adapter (result.map (·.configuration)) := by
  rcases hserves with ⟨s, found, hcurrent, hfound, rfl⟩ | hresult
  · obtain ⟨file', adapter', hparent, hused, huncached⟩ := hcurrent found hfound
    by_cases hsame : adapter'.handle.description = adapter.handle.description
    · exact .inl (Configuration.uncached_sibling hstill hsame hparent huncached.symm).symm
    · exact .inr ⟨file', adapter', hparent, hused, hsame, huncached⟩
  · exact .inl hresult

/-- A look-up of a configuration that begins after the last change of the files and its notification comes
to what it finds without a cache, unless a look-up from before the change overlaps with the notification,
or one since the change has found the configuration of the directory through another library. -/
theorem uncached_unless_overlapped_or_borrowed (hnotified : Notified uris p₀ p₁ p₂ p₃)
    (hstill : p₀.state.host.Still)
    {i : Nat} {file : Path} {adapter : Adapter} {result : Except LintError LoadedConfiguration}
    (hi : p₂.tasks.length ≤ i) (htask : p₃.tasks[i]? = some ⟨.configuration file adapter, .done result⟩) :
    result.map (·.configuration) = Configuration.uncached settings p₀.state.host adapter.handle file ∨
      Overlaps file.parent p₀ p₁ ∨
        Borrowed settings p₀.state.host (StartedSince p₀ p₃) file adapter (result.map (·.configuration)) := by
  by_cases hoverlaps : Overlaps file.parent p₀ p₁
  · exact .inr (.inl hoverlaps)
  obtain ⟨hrun₁, hrun₂, hrun₃, hhost₁, hhost₂⟩ := hnotified.confined hstill
  obtain ⟨hlength, hchange⟩ := hnotified.changed_mem
  obtain ⟨s, hchanged⟩ := hnotified.changed
  have hrefreshing₁ := refreshing_of_changed hstill hchanged rfl hrun₁ hoverlaps hlength
  obtain ⟨hcurrent₂, hrefreshing₂⟩ := hrefreshing₁.isCurrent_of_notified hstill hhost₁ hchange hrun₂
    hnotified.processed
  have hrefreshing₃ := hrefreshing₂.stays hstill le_rfl hhost₂ hcurrent₂ hrun₃
  have hserves := Routine.upholds_done_iff.1 (hrefreshing₃ i _ htask trivial) hi rfl
  exact (uncached_or_borrowed hstill hserves).imp_right .inr

/-! ## A configuration that comes late -/

/-- The host of the project after a configuration has been added next to its files. -/
def extendedHost : Host :=
  { sharedProject.host with
    files := sharedProject.host.files.set ["src", "tslint.json"] (.file (some []) 1) }

/-- A look-up of a configuration in the project. -/
def sharedLookup : CacheCall := .configuration (sharedFile "a.ts") ⟨0, sharedLibrary⟩

/-- A look-up has found no configuration next to its file. Then one is added. -/
def lateAdded : Pool (cacheCalls {}) :=
  let started := (⟨sharedProject, []⟩ : Pool (cacheCalls {})).receive sharedProject [sharedLookup]
  let begun := started.advances [0, 0]
  begun.receive { begun.state with host := extendedHost } []

/-- The notification is processed. -/
def lateNotified : Pool (cacheCalls {}) :=
  (lateAdded.receive lateAdded.state [.changed ["file:///src/tslint.json"]]).advances [1, 1]

/-- The look-up goes on to its end, and another one begins and ends. -/
def lateLookup : Pool (cacheCalls {}) :=
  let stored := lateNotified.advances (List.replicate 12 0)
  (stored.receive stored.state [sharedLookup]).advances [2]

/-- The configuration that a look-up has come to. -/
def Task.loaded? (file : Path) (adapter : Adapter) : Task (cacheCalls settings) → Option LoadedConfiguration
  | ⟨.configuration other with', .done (.ok loaded)⟩ =>
    if other = file ∧ with' = adapter then some loaded else none
  | _ => none

theorem Task.eq_of_loaded? {file : Path} {adapter : Adapter} {loaded : LoadedConfiguration}
    {task : Task (cacheCalls settings)} (h : task.loaded? file adapter = some loaded) :
    task = ⟨.configuration file adapter, .done (.ok loaded)⟩ := by
  unfold Task.loaded? at h
  split at h
  next other with' found =>
    split at h
    next hsame =>
      cases h
      rw [hsame.1, hsame.2]
    next => cases h
  next => cases h

theorem notified_late :
    Notified ["file:///src/tslint.json"] lateAdded lateAdded lateNotified lateLookup where
  changed := by
    have hbegun : Pool.Reaches (callingAndChanging {}) (⟨sharedProject, []⟩ : Pool (cacheCalls {}))
        (Pool.advances (Pool.receive ⟨sharedProject, []⟩ sharedProject [sharedLookup]) [0, 0]) :=
      .trans (.tail .refl (.receive ⟨sharedProject.host, rfl⟩) trivial) (reaches_advances _ _)
    exact ⟨sharedProject, .tail hbegun (.receive ⟨extendedHost, rfl⟩) trivial⟩
  waited := .refl
  notified := reaches_advances _ _
  processed := by
    have hthere : (lateNotified.tasks[lateAdded.tasks.length]?).isSome := by decide +kernel
    have hdone : ∀ task ∈ lateNotified.tasks[lateAdded.tasks.length]?, task.IsDone := by decide +kernel
    obtain ⟨task, htask⟩ := Option.isSome_iff_exists.1 hthere
    exact ⟨task, htask, hdone task htask⟩
  after := .trans (.tail (reaches_advances _ _) (.receive rfl) trivial) (reaches_advances _ _)

theorem uncached_unless_overlapped_or_borrowed_late :
    Notified ["file:///src/tslint.json"] lateAdded lateAdded lateNotified lateLookup ∧
      lateAdded.state.host.Still ∧
      ∃ loaded, lateLookup.tasks[2]? = some ⟨sharedLookup, .done (.ok loaded)⟩ ∧
        .ok loaded.configuration ≠
          Configuration.uncached {} lateAdded.state.host sharedLibrary (sharedFile "a.ts") ∧
        Overlaps (sharedFile "a.ts").parent lateAdded lateAdded := by
  have hstill : lateAdded.state.host.Still := fun _ => rfl
  have hstale : ((lateLookup.tasks[2]?.bind (Task.loaded? (sharedFile "a.ts") ⟨0, sharedLibrary⟩)).map
      (·.configuration.path)) = some ⟨.root, ["tslint.json"]⟩ := by decide +kernel
  have hcurrent : (Configuration.uncached {} lateAdded.state.host sharedLibrary
      (sharedFile "a.ts")).toOption.map (·.path) = some ⟨.root, ["src", "tslint.json"]⟩ := by decide +kernel
  obtain ⟨loaded, hloaded, hpath⟩ := Option.map_eq_some_iff.1 hstale
  obtain ⟨task, htask, hresult⟩ := Option.bind_eq_some_iff.1 hloaded
  rw [Task.eq_of_loaded? hresult] at htask
  have hne : .ok loaded.configuration ≠
      Configuration.uncached {} lateAdded.state.host sharedLibrary (sharedFile "a.ts") := by
    intro hsame
    rw [← hsame] at hcurrent
    exact absurd (hpath.symm.trans (Option.some.inj hcurrent)) (by decide)
  have hlate : lateNotified.tasks.length ≤ 2 := by decide +kernel
  refine ⟨notified_late, hstill, loaded, htask, hne, ?_⟩
  rcases uncached_unless_overlapped_or_borrowed notified_late hstill hlate htask with
    hsame | hoverlaps | ⟨file, adapter, -, hused, hother, -⟩
  · exact absurd hsame hne
  · exact hoverlaps
  · -- there is one library only
    have hcalls : lateLookup.calls =
        [sharedLookup, .changed ["file:///src/tslint.json"], sharedLookup] := by
      simp only [lateLookup, lateNotified, lateAdded, calls_advances, calls_receive]
      rfl
    have hused := List.mem_of_mem_drop hused
    rw [hcalls] at hused
    simp only [sharedLookup, List.mem_cons, List.not_mem_nil, or_false, CacheCall.configuration.injEq,
      reduceCtorEq, false_or, or_self] at hused
    exact absurd (congrArg (·.handle.description) hused.2) hother

end LintBridge
