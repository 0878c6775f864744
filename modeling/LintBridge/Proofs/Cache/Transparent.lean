-- SUMMARY: Look-ups that share a cache come to what they come to without it, in whatever order their steps are made.
import LintBridge.Proofs.Cache.Coherent
import LintBridge.Proofs.Routine.Pool

/-!
# Look-ups that share a cache

Any number of look-ups use one cache at the same time, and others clear it. As long as the host stays as
it is, none of them can tell that there is a cache: two may miss and both resolve, an entry may be replaced
while it is used, or dropped before it is needed, but whatever a look-up meets is what it would find itself.
-/

namespace LintBridge

open Library

variable {settings : Settings} {h : Host}

/-- What a look-up comes to is what is found without a cache. Of a library the source may be another. -/
def CacheCall.AsUncached (settings : Settings) (h : Host) : (call : CacheCall) → call.Result → Prop
  | .library file, result =>
    result.map (·.handle.description) = (uncached settings h file).map Handle.description
  | .configuration file adapter, result =>
    result.map (·.configuration) = Configuration.uncached settings h adapter.handle file
  | _, _ => True

theorem Service.coherently_configurationChanged (hstill : h.Still) (s : Service) (uris : List String) :
    (s.configurationChanged uris).Coherently settings h fun _ => True := by
  refine Routine.upholds_step_bind fun σ hσ => ⟨⟨hσ.host, hσ.cache.dropConfigurations⟩, ?_⟩
  exact ((s.asks_logChanges uris).settles hstill).coherently.mono (fun _ hs => hs) (fun _ _ _ hs => hs)
    fun _ _ => trivial

/-- A call that is started at a coherent cache keeps it coherent and comes to what is found without. -/
theorem CacheCall.coherently (hstill : h.Still) (call : CacheCall)
    (hadapter : ∀ file adapter, call = .configuration file adapter →
      (uncached settings h file).map Handle.description = .ok adapter.handle.description) :
    (call.routine settings).Coherently settings h (call.AsUncached settings h) := by
  cases call with
  | library file => exact coherently_libraryFor hstill file
  | configuration file adapter =>
    exact coherently_configurationFor hstill file adapter (hadapter file adapter rfl)
  | clearConfigurations =>
    refine Routine.upholds_step (q := .dropConfigurations) fun s hs => ?_
    exact ⟨⟨hs.host, hs.cache.dropConfigurations⟩, trivial⟩
  | clear =>
    refine Routine.upholds_step (q := .clearCache) fun s hs => ?_
    exact ⟨⟨hs.host, hs.cache.clear⟩, trivial⟩
  | changed uris => exact Service.coherently_configurationChanged hstill _ uris

/-- The calls that are started keep the cache coherent, and nothing else changes the state. -/
theorem keeps_callingInOrder (hstill : h.Still) :
    Pool.Keeps (callingInOrder settings) (fun _ => True) (State.Coherent settings h)
      (fun _ => State.Coherent settings h) (fun _ _ => True)
      fun _ call => call.AsUncached settings h where
  calls := by
    rintro q s calls ⟨-, horder⟩ hq call hcall i - -
    refine CacheCall.coherently hstill call fun file adapter hconfiguration => ?_
    obtain ⟨j, hj⟩ := List.getElem?_of_mem (horder file adapter (hconfiguration ▸ hcall))
    exact (Routine.upholds_done_iff.1 (hq j _ hj trivial)).symm
  states := by
    intro q r hstep hq hs _
    rcases hq.state_cases hstep hs with hsame | hr | ⟨calls, hsame, -⟩
    · exact hsame ▸ hs
    · exact hr
    · exact hsame ▸ hs

/-- While the host stays as it is, every look-up in a shared cache comes to what is found without the
cache: the one that is done has come to it, and the one that goes on alone from here will. -/
theorem lookups_as_uncached {s : State} (hstill : s.host.Still) {p : Pool (cacheCalls settings)}
    (hrun : Pool.Reaches (callingInOrder settings) ⟨{ s with cache := {} }, []⟩ p) :
    ∀ task ∈ p.tasks, task.call.AsUncached settings s.host (task.rest.run p.state).1 := by
  intro task htask
  obtain ⟨hp, hcoherent⟩ :=
    (Pool.upholds_begin _).runs (keeps_callingInOrder hstill) hrun ⟨rfl, Cache.coherent_empty⟩
  obtain ⟨i, hi⟩ := List.getElem?_of_mem htask
  exact ((hp i task hi trivial).run (fun _ _ _ hkept => hkept) hcoherent).1

/-! ## A crowded project -/

/-- A project with a library and a configuration at its root. -/
def sharedProject : State where
  host := {
    files := ⟨[(["src"], .directory), (["tslint.json"], .file (some []) 1), (["node_modules"], .directory),
      (["node_modules", "tslint"], .directory),
      (["node_modules", "tslint", "package.json"], .file (some (Text.Utf8.encode "\x7b\x7d".toList)) 1)], []⟩
    environment := []
    executables := [("node", "/bin/node")]
    replies := fun _ => { outcome := .exited 0 (some "\x7b\"ok\":1,\"result\":\x7b\x7d\x7d") none } }

/-- The library of the project, as it is found for two of its files at the same time. -/
def sharedLibrary : Handle where
  path := ⟨.root, ["node_modules", "tslint"]⟩
  entryPoint := ⟨.root, ["node_modules", "tslint", "index.js"]⟩
  version := none
  source := .project
  generation := .legacy

/-- A file of the project. -/
def sharedFile (name : String) : Path := ⟨.root, ["src", name]⟩

/-- Two look-ups of the library make their steps in turn, so that both miss and both load it. -/
def crowdedLibraries : Pool (cacheCalls {}) :=
  ((⟨sharedProject, []⟩ : Pool (cacheCalls {})).receive sharedProject
    [.library (sharedFile "a.ts"), .library (sharedFile "b.ts")]).advances (List.replicate 12 [0, 1]).flatten

/-- Then two look-ups of the configuration do the same, and all entries are dropped between their steps. -/
def crowdedConfigurations : Pool (cacheCalls {}) :=
  (crowdedLibraries.receive crowdedLibraries.state [.configuration (sharedFile "a.ts") ⟨0, sharedLibrary⟩,
    .clear, .configuration (sharedFile "b.ts") ⟨1, sharedLibrary⟩]).advances
      ([2, 4, 2, 3] ++ (List.replicate 12 [4, 2]).flatten)

/-- The adapter that a look-up for a file has found. -/
def Task.adapter? (file : Path) : Task (cacheCalls settings) → Option Adapter
  | ⟨.library other, .done (.ok adapter)⟩ => if other = file then some adapter else none
  | _ => none

theorem Task.eq_of_adapter? {file : Path} {adapter : Adapter} {task : Task (cacheCalls settings)}
    (h : task.adapter? file = some adapter) : task = ⟨.library file, .done (.ok adapter)⟩ := by
  unfold Task.adapter? at h
  split at h
  next other found =>
    split at h
    next hfile =>
      cases h
      rw [hfile]
    next => cases h
  next => cases h

theorem reaches_crowdedLibraries :
    Pool.Reaches (callingInOrder {}) ⟨{ sharedProject with cache := {} }, []⟩ crowdedLibraries := by
  refine .trans (.tail .refl (.receive ⟨rfl, ?_⟩) trivial) (Pool.reaches_advances _ _)
  intro file adapter hcall
  rcases List.mem_cons.1 hcall with hcall | hcall
  · cases hcall
  · cases List.mem_singleton.1 hcall

theorem reaches_crowdedConfigurations :
    Pool.Reaches (callingInOrder {}) ⟨{ sharedProject with cache := {} }, []⟩ crowdedConfigurations := by
  refine .trans (.tail reaches_crowdedLibraries (.receive ⟨rfl, ?_⟩) trivial) (Pool.reaches_advances _ _)
  have hfound (i : Nat) (file : Path) (adapter : Adapter)
      (h : (crowdedLibraries.tasks[i]?.bind (Task.adapter? file)) = some adapter) :
      (⟨.library file, .done (.ok adapter)⟩ : Task (cacheCalls {})) ∈ crowdedLibraries.tasks := by
    obtain ⟨task, htask, hadapter⟩ := Option.bind_eq_some_iff.1 h
    exact Task.eq_of_adapter? hadapter ▸ List.mem_of_getElem? htask
  intro file adapter hcall
  simp only [List.mem_cons, List.not_mem_nil, or_false, CacheCall.configuration.injEq, reduceCtorEq,
    false_or] at hcall
  rcases hcall with ⟨rfl, rfl⟩ | ⟨rfl, rfl⟩
  · exact hfound 0 _ _ (by decide +kernel)
  · exact hfound 1 _ _ (by decide +kernel)

theorem lookups_as_uncached_crowded :
    sharedProject.host.Still ∧
      Pool.Reaches (callingInOrder {}) ⟨{ sharedProject with cache := {} }, []⟩ crowdedConfigurations ∧
      (∀ task ∈ crowdedConfigurations.tasks, task.IsDone) ∧
      ∀ task ∈ crowdedConfigurations.tasks,
        task.call.AsUncached {} sharedProject.host (task.rest.run crowdedConfigurations.state).1 :=
  ⟨fun _ => rfl, reaches_crowdedConfigurations, by decide +kernel,
    lookups_as_uncached (fun _ => rfl) reaches_crowdedConfigurations⟩

end LintBridge
