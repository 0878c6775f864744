-- SUMMARY: What a cache holds and counts is what the history of its calls amounts to.
import LintBridge.Proofs.Cache.LookupEnds
import LintBridge.Proofs.Cache.Transparent
import LintBridge.Proofs.Routine.History
import Mathlib.Data.Finset.Card

/-!
# Accounts of a cache

When calls on a cache run one after the other, its contents can be told from the calls alone, however the
host has changed between them: the files whose library was found and the packages that were loaded since all
entries were dropped, the directories whose configuration was found since configurations were dropped, and
how often something was found that was there already.
-/

namespace LintBridge

open Library

/-! ## Tables and their keys -/

namespace Table

variable {κ α : Type} [DecidableEq κ]

/-- The keys of a table, each of which it lists once. -/
structure Lists (table : List (κ × α)) (keys : Finset κ) : Prop where
  isSome_iff : ∀ key, (find? table key).isSome ↔ key ∈ keys
  length : table.length = keys.card

variable {table : List (κ × α)} {keys : Finset κ} {key : κ}

theorem lists_nil : Lists ([] : List (κ × α)) ∅ := ⟨fun key => by simp [find?], rfl⟩

theorem Lists.mem_of_find? (h : Lists table keys) {value : α} (hfound : find? table key = some value) :
    key ∈ keys := (h.isSome_iff key).1 (hfound ▸ rfl)

theorem Lists.not_mem_of_find? (h : Lists table keys) (hfound : find? table key = none) : key ∉ keys := by
  intro hkey
  have hsome := (h.isSome_iff key).2 hkey
  rw [hfound] at hsome
  cases hsome

theorem Lists.put (h : Lists table keys) (key : κ) (value : α) :
    Lists (Table.put key value table) (insert key keys) := by
  constructor
  case isSome_iff =>
    intro key'
    rw [find?_put, Finset.mem_insert]
    by_cases hkey : key = key'
    · simp [hkey]
    · simp [hkey, Ne.symm hkey, h.isSome_iff]
  case length =>
    rw [length_put, h.length]
    by_cases hkey : key ∈ keys
    · simp [(h.isSome_iff key).2 hkey, Finset.insert_eq_of_mem hkey]
    · have hnone : (find? table key).isSome = false := by
        simpa using (h.isSome_iff key).not.2 hkey
      simp [hnone, Finset.card_insert_of_notMem hkey]

end Table

/-! ## What calls come to -/

namespace CacheCall

/-- All entries are dropped. -/
def clears : CacheCall → Bool
  | .clear => true
  | _ => false

/-- All configurations are dropped. -/
def drops : CacheCall → Bool
  | .clear | .clearConfigurations | .changed _ => true
  | _ => false

/-- The file whose library was found, with the adapter. -/
def found? : (call : CacheCall) → call.Result → Option (Path × Adapter)
  | .library file, .ok adapter => some (file, adapter)
  | _, _ => none

/-- The directory whose configuration was found. -/
def configured? : (call : CacheCall) → call.Result → Option Path
  | .configuration file _, .ok _ => some file.parent
  | _, _ => none

/-- The call ends with an error. -/
def Raises : (call : CacheCall) → call.Result → Prop
  | .library _, .error _ => True
  | .configuration .., .error _ => True
  | _, _ => False

end CacheCall

variable {settings : Settings}

namespace Turn

def found? (turn : Turn (cacheCalls settings)) : Option (Path × Adapter) := turn.call.found? turn.result

def configured? (turn : Turn (cacheCalls settings)) : Option Path := turn.call.configured? turn.result

def Raises (turn : Turn (cacheCalls settings)) : Prop := turn.call.Raises turn.result

/-- The package directory that was loaded: the one of the adapter, if its manifest was read. -/
def loaded? (turn : Turn (cacheCalls settings)) : Option Path := do
  let (_, adapter) ← turn.found?
  if adapter.handle.path.child manifestName ∈ filesRead turn.asked then some adapter.handle.path else none

end Turn

/-! ## Accounts of a history -/

section

variable (turns : List (Turn (cacheCalls settings)))

/-- The calls since all entries were dropped. -/
def sinceCleared : List (Turn (cacheCalls settings)) := turns.takeWhile (!·.call.clears)

/-- The calls since configurations were dropped. -/
def sinceDropped : List (Turn (cacheCalls settings)) := turns.takeWhile (!·.call.drops)

/-- The files whose library was found. -/
def filesResolved : Finset Path := ((sinceCleared turns).filterMap (·.found?.map Prod.fst)).toFinset

/-- The adapters that were found. -/
def adaptersFound : List Adapter := (sinceCleared turns).filterMap (·.found?.map Prod.snd)

/-- The package directories that were loaded, with repetitions. -/
def directoriesLoaded : List Path := (sinceCleared turns).filterMap Turn.loaded?

/-- The directories whose configuration was found. -/
def directoriesConfigured : Finset Path := ((sinceDropped turns).filterMap Turn.configured?).toFinset

end

/-- How often the library of a file was looked up that had been found before. -/
def hitsOfLibraries : List (Turn (cacheCalls settings)) → Nat
  | [] => 0
  | turn :: past =>
    match turn.call with
    | .clear => 0
    | .library file => hitsOfLibraries past + if file ∈ filesResolved past then 1 else 0
    | _ => hitsOfLibraries past

/-- How often the configuration of a directory was looked up that had been found before. -/
def hitsOfConfigurations : List (Turn (cacheCalls settings)) → Nat
  | [] => 0
  | turn :: past =>
    match turn.call with
    | .clear => 0
    | .configuration file _ =>
      hitsOfConfigurations past + if file.parent ∈ directoriesConfigured past then 1 else 0
    | _ => hitsOfConfigurations past

/-- The numbers that a history amounts to. -/
def accountOf (turns : List (Turn (cacheCalls settings))) : CacheInfo where
  libraries := (filesResolved turns).card
  libraryPaths := (directoriesLoaded turns).toFinset.card
  configurations := (directoriesConfigured turns).card
  libraryHits := hitsOfLibraries turns
  configurationHits := hitsOfConfigurations turns

section

variable {turn : Turn (cacheCalls settings)} (past : List (Turn (cacheCalls settings)))

theorem accounts_of_found {file : Path} {adapter : Adapter} (h : turn.call.clears = false)
    (hfound : turn.found? = some (file, adapter)) :
    filesResolved (turn :: past) = insert file (filesResolved past) ∧
      adaptersFound (turn :: past) = adapter :: adaptersFound past := by
  constructor
  · simp [filesResolved, sinceCleared, h, hfound]
  · simp [adaptersFound, sinceCleared, h, hfound]

theorem directoriesLoaded_of_some {directory : Path} (h : turn.call.clears = false)
    (hloaded : turn.loaded? = some directory) :
    directoriesLoaded (turn :: past) = directory :: directoriesLoaded past := by
  simp [directoriesLoaded, sinceCleared, h, hloaded]

theorem directoriesLoaded_of_none (h : turn.call.clears = false) (hloaded : turn.loaded? = none) :
    directoriesLoaded (turn :: past) = directoriesLoaded past := by
  simp [directoriesLoaded, sinceCleared, h, hloaded]

/-- A turn that finds no library loads none. -/
theorem accounts_of_not_found (h : turn.call.clears = false) (hfound : turn.found? = none) :
    filesResolved (turn :: past) = filesResolved past ∧ adaptersFound (turn :: past) = adaptersFound past ∧
      directoriesLoaded (turn :: past) = directoriesLoaded past := by
  have hloaded : turn.loaded? = none := by simp [Turn.loaded?, hfound]
  refine ⟨?_, ?_, ?_⟩
  · simp [filesResolved, sinceCleared, h, hfound]
  · simp [adaptersFound, sinceCleared, h, hfound]
  · exact directoriesLoaded_of_none past h hloaded

theorem directoriesConfigured_of_some {directory : Path} (h : turn.call.drops = false)
    (hconfigured : turn.configured? = some directory) :
    directoriesConfigured (turn :: past) = insert directory (directoriesConfigured past) := by
  simp [directoriesConfigured, sinceDropped, h, hconfigured]

theorem directoriesConfigured_of_none (h : turn.call.drops = false) (hconfigured : turn.configured? = none) :
    directoriesConfigured (turn :: past) = directoriesConfigured past := by
  simp [directoriesConfigured, sinceDropped, h, hconfigured]

end

theorem hitsOfLibraries_library (file : Path) (before : State) (past : List (Turn (cacheCalls settings))) :
    hitsOfLibraries (⟨.library file, before⟩ :: past) =
      hitsOfLibraries past + if file ∈ filesResolved past then 1 else 0 := rfl

theorem hitsOfConfigurations_configuration (file : Path) (adapter : Adapter) (before : State)
    (past : List (Turn (cacheCalls settings))) :
    hitsOfConfigurations (⟨.configuration file adapter, before⟩ :: past) =
      hitsOfConfigurations past + if file.parent ∈ directoriesConfigured past then 1 else 0 := rfl

/-! ## Caches and their histories -/

/-- A cache holds what a history amounts to. The adapter of a file is that of its package, and so is each
adapter that was found. -/
structure Cache.Accounted (turns : List (Turn (cacheCalls settings))) (c : Cache) : Prop where
  files : Table.Lists c.files (filesResolved turns)
  packages : Table.Lists c.packages (directoriesLoaded turns).toFinset
  configurations : Table.Lists c.configurations (directoriesConfigured turns)
  libraryHits : c.libraryHits = hitsOfLibraries turns
  configurationHits : c.configurationHits = hitsOfConfigurations turns
  places : ∀ directory adapter, Table.find? c.packages directory = some adapter →
    adapter.handle.path = directory
  shared : ∀ file adapter, Table.find? c.files file = some adapter →
    Table.find? c.packages adapter.handle.path = some adapter
  found : ∀ adapter ∈ adaptersFound turns, Table.find? c.packages adapter.handle.path = some adapter
  loadedOnce : (directoriesLoaded turns).Nodup
  fewer : c.packages.length ≤ c.files.length

namespace Cache

variable {past : List (Turn (cacheCalls settings))} {c : Cache}

theorem accounted_empty : Accounted ([] : List (Turn (cacheCalls settings))) {} where
  files := Table.lists_nil
  packages := Table.lists_nil
  configurations := Table.lists_nil
  libraryHits := rfl
  configurationHits := rfl
  places _ _ h := nomatch h
  shared _ _ h := nomatch h
  found _ h := nomatch h
  loadedOnce := List.nodup_nil
  fewer := Nat.le_refl 0

theorem accounted_clear (before : State) :
    before.cache.clear.Accounted (⟨.clear, before⟩ :: past : List (Turn (cacheCalls settings))) where
  files := Table.lists_nil
  packages := Table.lists_nil
  configurations := Table.lists_nil
  libraryHits := rfl
  configurationHits := rfl
  places _ _ h := nomatch h
  shared _ _ h := nomatch h
  found _ h := nomatch h
  loadedOnce := List.nodup_nil
  fewer := Nat.le_refl 0

namespace Accounted

/-- A turn that finds no library, and no hit of one, leaves the entries of libraries. -/
theorem withoutLibrary (h : c.Accounted past) {turn : Turn (cacheCalls settings)}
    (hclears : turn.call.clears = false) (hfound : turn.found? = none)
    (hhits : hitsOfLibraries (turn :: past) = hitsOfLibraries past)
    {configurations : List (Path × LoadedConfiguration)} {configurationHits serials : Nat}
    {roots : List (Source × Option Path)}
    (hconfigurations : Table.Lists configurations (directoriesConfigured (turn :: past)))
    (hconfigurationHits : configurationHits = hitsOfConfigurations (turn :: past)) :
    Accounted (turn :: past) { c with configurations, configurationHits, roots, serials } := by
  obtain ⟨hfiles, hadapters, hdirectories⟩ := accounts_of_not_found past hclears hfound
  constructor
  case files => exact hfiles ▸ h.files
  case packages => exact hdirectories ▸ h.packages
  case configurations => exact hconfigurations
  case libraryHits => exact h.libraryHits.trans hhits.symm
  case configurationHits => exact hconfigurationHits
  case places => exact h.places
  case shared => exact h.shared
  case found => exact hadapters ▸ h.found
  case loadedOnce => exact hdirectories ▸ h.loadedOnce
  case fewer => exact h.fewer

/-! ### Look-ups of a library -/

section

variable {file : Path} {before : State} {adapter : Adapter}

/-- The library of a file is in the cache. -/
theorem hit (h : c.Accounted past)
    (hfound : (⟨.library file, before⟩ : Turn (cacheCalls settings)).found? = some (file, adapter))
    (hloaded : (⟨.library file, before⟩ : Turn (cacheCalls settings)).loaded? = none)
    (hfile : Table.find? c.files file = some adapter) :
    Accounted (⟨.library file, before⟩ :: past) { c with libraryHits := c.libraryHits + 1 } := by
  obtain ⟨hfiles, hadapters⟩ := accounts_of_found past rfl hfound
  have hdirectories := directoriesLoaded_of_none past rfl hloaded
  have hknown : file ∈ filesResolved past := h.files.mem_of_find? hfile
  constructor
  case files =>
    rw [hfiles, Finset.insert_eq_of_mem hknown]
    exact h.files
  case packages => exact hdirectories ▸ h.packages
  case configurations => exact h.configurations
  case libraryHits => rw [hitsOfLibraries_library, if_pos hknown, h.libraryHits]
  case configurationHits => exact h.configurationHits
  case places => exact h.places
  case shared => exact h.shared
  case found =>
    rw [hadapters]
    exact List.forall_mem_cons.2 ⟨h.shared file adapter hfile, h.found⟩
  case loadedOnce => exact hdirectories ▸ h.loadedOnce
  case fewer => exact h.fewer

/-- The package of a file is in the cache, and its adapter is kept for the file. -/
theorem keepShared (h : c.Accounted past)
    (hfound : (⟨.library file, before⟩ : Turn (cacheCalls settings)).found? = some (file, adapter))
    (hloaded : (⟨.library file, before⟩ : Turn (cacheCalls settings)).loaded? = none)
    (hfile : Table.find? c.files file = none) {directory : Path}
    (hpackage : Table.find? c.packages directory = some adapter) (roots : List (Source × Option Path)) :
    Accounted (⟨.library file, before⟩ :: past) ((c.withRoots roots).keepLibrary file adapter) := by
  obtain ⟨hfiles, hadapters⟩ := accounts_of_found past rfl hfound
  have hdirectories := directoriesLoaded_of_none past rfl hloaded
  have hnew : file ∉ filesResolved past := h.files.not_mem_of_find? hfile
  have hplace : Table.find? c.packages adapter.handle.path = some adapter := by
    rw [h.places directory adapter hpackage]
    exact hpackage
  constructor
  case files =>
    rw [hfiles]
    exact h.files.put file adapter
  case packages => exact hdirectories ▸ h.packages
  case configurations => exact h.configurations
  case libraryHits =>
    rw [hitsOfLibraries_library, if_neg hnew]
    exact h.libraryHits
  case configurationHits => exact h.configurationHits
  case places => exact h.places
  case shared =>
    intro file' adapter' hfound'
    rw [keepLibrary, Table.find?_put] at hfound'
    split at hfound'
    next =>
      cases hfound'
      exact hplace
    next => exact h.shared file' adapter' hfound'
  case found =>
    rw [hadapters]
    exact List.forall_mem_cons.2 ⟨hplace, h.found⟩
  case loadedOnce => exact hdirectories ▸ h.loadedOnce
  case fewer =>
    simp only [keepLibrary, Table.length_put]
    exact h.fewer.trans (Nat.le_add_right _ _)

/-- The package of a file is loaded, and its adapter is kept for the directory and for the file. -/
theorem keepLoaded (h : c.Accounted past) {handle : Handle}
    (hfound : (⟨.library file, before⟩ : Turn (cacheCalls settings)).found? = some (file, ⟨c.serials, handle⟩))
    (hloaded : (⟨.library file, before⟩ : Turn (cacheCalls settings)).loaded? = some handle.path)
    (hfile : Table.find? c.files file = none) (hpackage : Table.find? c.packages handle.path = none)
    (roots : List (Source × Option Path)) :
    Accounted (⟨.library file, before⟩ :: past)
      (((c.withRoots roots).keepPackage handle.path handle).2.keepLibrary file ⟨c.serials, handle⟩) := by
  obtain ⟨hfiles, hadapters⟩ := accounts_of_found past rfl hfound
  have hdirectories := directoriesLoaded_of_some past rfl hloaded
  have hnew : file ∉ filesResolved past := h.files.not_mem_of_find? hfile
  have hnewDirectory : handle.path ∉ directoriesLoaded past := fun hmem =>
    h.packages.not_mem_of_find? hpackage (List.mem_toFinset.2 hmem)
  -- an adapter that is in the cache is of another directory
  have hstays (adapter : Adapter) (hadapter : Table.find? c.packages adapter.handle.path = some adapter) :
      Table.find? (Table.put handle.path ⟨c.serials, handle⟩ c.packages) adapter.handle.path =
        some adapter := by
    have hother : handle.path ≠ adapter.handle.path := by
      intro hsame
      rw [hsame, hadapter] at hpackage
      cases hpackage
    rw [Table.find?_put, if_neg hother, hadapter]
  have hself : Table.find? (Table.put handle.path ⟨c.serials, handle⟩ c.packages) handle.path =
      some (⟨c.serials, handle⟩ : Adapter) := Table.find?_put_self ..
  constructor
  case files =>
    rw [hfiles]
    exact h.files.put file _
  case packages =>
    rw [hdirectories, List.toFinset_cons]
    exact h.packages.put handle.path _
  case configurations => exact h.configurations
  case libraryHits =>
    rw [hitsOfLibraries_library, if_neg hnew]
    exact h.libraryHits
  case configurationHits => exact h.configurationHits
  case places =>
    intro directory adapter hadapter
    simp only [keepLibrary, keepPackage, withRoots, Table.find?_put] at hadapter
    split at hadapter
    next hsame =>
      cases hadapter
      exact hsame
    next => exact h.places directory adapter hadapter
  case shared =>
    intro file' adapter hfound'
    simp only [keepLibrary, keepPackage, withRoots, Table.find?_put] at hfound'
    split at hfound'
    next =>
      cases hfound'
      exact hself
    next => exact hstays adapter (h.shared file' adapter hfound')
  case found =>
    rw [hadapters]
    exact List.forall_mem_cons.2 ⟨hself, fun adapter hadapter => hstays adapter (h.found adapter hadapter)⟩
  case loadedOnce =>
    rw [hdirectories]
    exact h.loadedOnce.cons hnewDirectory
  case fewer =>
    simp only [keepLibrary, keepPackage, withRoots, Table.length_put, hfile, hpackage]
    exact Nat.add_le_add_right h.fewer 1

/-- No library is found. -/
theorem libraryRaised (h : c.Accounted past)
    (hfound : (⟨.library file, before⟩ : Turn (cacheCalls settings)).found? = none)
    (hfile : Table.find? c.files file = none) (roots : List (Source × Option Path)) :
    Accounted (⟨.library file, before⟩ :: past) (c.withRoots roots) := by
  refine h.withoutLibrary rfl hfound ?_ h.configurations h.configurationHits
  rw [hitsOfLibraries_library, if_neg (h.files.not_mem_of_find? hfile), Nat.add_zero]

theorem library (h : before.cache.Accounted past) (file : Path) :
    Accounted (⟨.library file, before⟩ :: past)
      (Turn.after (c := cacheCalls settings) ⟨.library file, before⟩).cache := by
  have hends := libraryFor_ends settings file before
  generalize hresult : ((libraryFor settings file).runOn before).1 = result,
    hread : filesRead ((libraryFor settings file).asked before) = read,
    hafter : ((libraryFor settings file).runOn before).2.cache = c' at hends
  have hfound : (⟨.library file, before⟩ : Turn (cacheCalls settings)).found? =
      CacheCall.found? (.library file) result := congrArg (CacheCall.found? (.library file)) hresult
  have hread : filesRead (Turn.asked (c := cacheCalls settings) ⟨.library file, before⟩) = read := hread
  have hafter : (Turn.after (c := cacheCalls settings) ⟨.library file, before⟩).cache = c' := hafter
  rw [hafter]
  cases hends with
  | hit hfile => exact h.hit hfound (by simp [Turn.loaded?, hfound, hread, CacheCall.found?]) hfile
  | shared hfile hpackage =>
    exact h.keepShared hfound (by simp [Turn.loaded?, hfound, hread, CacheCall.found?]) hfile hpackage _
  | loaded hfile hpackage hmanifest =>
    exact h.keepLoaded hfound (by simp [Turn.loaded?, hfound, hread, hmanifest, CacheCall.found?]) hfile
      hpackage _
  | raised hfile => exact h.libraryRaised hfound hfile _

end

/-! ### Other calls -/

theorem configuration {before : State} (h : before.cache.Accounted past) (file : Path) (adapter : Adapter) :
    Accounted (⟨.configuration file adapter, before⟩ :: past)
      (Turn.after (c := cacheCalls settings) ⟨.configuration file adapter, before⟩).cache := by
  have hends := configurationFor_ends settings file adapter before
  generalize hresult : ((configurationFor settings file adapter).runOn before).1 = result,
    hafter : ((configurationFor settings file adapter).runOn before).2.cache = c' at hends
  have hconfigured : (⟨.configuration file adapter, before⟩ : Turn (cacheCalls settings)).configured? =
      CacheCall.configured? (.configuration file adapter) result :=
    congrArg (CacheCall.configured? (.configuration file adapter)) hresult
  have hafter : (Turn.after (c := cacheCalls settings) ⟨.configuration file adapter, before⟩).cache = c' :=
    hafter
  have hhits := hitsOfConfigurations_configuration file adapter before past
  rw [hafter]
  cases hends with
  | hit hfile =>
    have hknown := h.configurations.mem_of_find? hfile
    refine h.withoutLibrary rfl rfl rfl ?_ ?_
    · rw [directoriesConfigured_of_some past rfl hconfigured, Finset.insert_eq_of_mem hknown]
      exact h.configurations
    · rw [hhits, if_pos hknown, h.configurationHits]
  | loaded hfile =>
    have hnew := h.configurations.not_mem_of_find? hfile
    refine h.withoutLibrary rfl rfl rfl ?_ ?_
    · rw [directoriesConfigured_of_some past rfl hconfigured]
      exact h.configurations.put file.parent _
    · rw [hhits, if_neg hnew]
      exact h.configurationHits
  | raised hfile =>
    have hnew := h.configurations.not_mem_of_find? hfile
    refine h.withoutLibrary rfl rfl rfl ?_ ?_
    · rw [directoriesConfigured_of_none past rfl hconfigured]
      exact h.configurations
    · rw [hhits, if_neg hnew]
      exact h.configurationHits

/-- A cache is accounted for after each call, if it was before. -/
theorem next {turn : Turn (cacheCalls settings)} (h : turn.before.cache.Accounted past) :
    turn.after.cache.Accounted (turn :: past) := by
  obtain ⟨call, before⟩ := turn
  cases call with
  | library file => exact library h file
  | configuration file adapter => exact configuration h file adapter
  | clearConfigurations => exact h.withoutLibrary rfl rfl rfl Table.lists_nil h.configurationHits
  | changed uris =>
    have hcache : (Turn.after (c := cacheCalls settings) ⟨.changed uris, before⟩).cache =
        before.cache.dropConfigurations :=
      ((Session.service settings).asks_logChanges uris).cache_run _
    rw [hcache]
    exact h.withoutLibrary rfl rfl rfl Table.lists_nil h.configurationHits
  | clear => exact accounted_clear before

end Accounted

end Cache

/-- A call that raises leaves all entries and counters. -/
theorem Turn.cache_of_raises {turn : Turn (cacheCalls settings)} (h : turn.Raises) :
    ∃ roots, turn.after.cache = turn.before.cache.withRoots roots := by
  obtain ⟨call, before⟩ := turn
  cases call with
  | library file =>
    have hends := libraryFor_ends settings file before
    have h : CacheCall.Raises (.library file) ((libraryFor settings file).runOn before).1 := h
    generalize ((libraryFor settings file).runOn before).1 = result,
      filesRead ((libraryFor settings file).asked before) = read,
      hafter : ((libraryFor settings file).runOn before).2.cache = c' at h hends
    cases hends with
    | raised => exact ⟨_, hafter⟩
    | _ => exact h.elim
  | configuration file adapter =>
    have hends := configurationFor_ends settings file adapter before
    have h : CacheCall.Raises (.configuration file adapter)
      ((configurationFor settings file adapter).runOn before).1 := h
    generalize ((configurationFor settings file adapter).runOn before).1 = result,
      hafter : ((configurationFor settings file adapter).runOn before).2.cache = c' at h hends
    cases hends with
    | raised => exact ⟨before.cache.roots, hafter⟩
    | _ => exact h.elim
  | _ => exact h.elim

/-- The cache is accounted for all along a history. -/
theorem History.accounted {first now : State} {turns : List (Turn (cacheCalls settings))}
    (h : History (cacheCalls settings) { first with cache := {} } turns now) :
    now.cache.Accounted turns := by
  induction h with
  | start => exact Cache.accounted_empty
  | next _ hbetween ih =>
    obtain ⟨host, documents, hbefore⟩ := hbetween
    refine Cache.Accounted.next ?_
    rw [hbefore]
    exact ih

/-- The adapter of each file is the entry of its package. No package is loaded twice before all entries are
dropped, so its adapter stays the same, a call that raises changes no entry and no counter, and the numbers
that describe the cache are those that the history amounts to. -/
theorem cache_accounts {first now : State} {turns : List (Turn (cacheCalls settings))}
    (h : History (cacheCalls settings) { first with cache := {} } turns now) :
    (∀ file adapter, Table.find? now.cache.files file = some adapter →
      Table.find? now.cache.packages adapter.handle.path = some adapter) ∧
    (directoriesLoaded turns).Nodup ∧
    (∀ adapter ∈ adaptersFound turns, ∀ adapter' ∈ adaptersFound turns,
      adapter.handle.path = adapter'.handle.path → adapter = adapter') ∧
    (∀ turn ∈ turns, turn.Raises → ∃ roots, turn.after.cache = turn.before.cache.withRoots roots) ∧
    now.cache.info = accountOf turns ∧ now.cache.info.libraryPaths ≤ now.cache.info.libraries := by
  have haccounted := h.accounted
  refine ⟨haccounted.shared, haccounted.loadedOnce, ?_, fun _ _ => Turn.cache_of_raises, ?_,
    haccounted.fewer⟩
  · intro adapter hadapter adapter' hadapter' hplace
    have hfound := haccounted.found adapter hadapter
    rw [hplace, haccounted.found adapter' hadapter'] at hfound
    exact (Option.some.inj hfound).symm
  · simp only [Cache.info, accountOf, haccounted.files.length, haccounted.packages.length,
      haccounted.configurations.length, haccounted.libraryHits, haccounted.configurationHits]

/-! ## A library that is renewed -/

/-- The project after its library was replaced by a later version. -/
def renewedHost : Host :=
  { sharedProject.host with
    files := sharedProject.host.files.set ["node_modules", "tslint", "package.json"]
      (.file (some (Text.Utf8.encode "\x7b\"version\":\"5.8.0\"\x7d".toList)) 2) }

/-- A host without any file. -/
def bareHost : Host := { sharedProject.host with files := ⟨[], []⟩ }

/-- Calls on the cache of the project, the latest first. The library is renewed after it was loaded. -/
def renewedCalls : List (CacheCall × Host × DocumentTable) :=
  [(.library (sharedFile "c.ts"), bareHost, []),
    (.clearConfigurations, renewedHost, []),
    (.configuration (sharedFile "b.ts") ⟨0, sharedLibrary⟩, renewedHost, []),
    (.configuration (sharedFile "a.ts") ⟨0, sharedLibrary⟩, renewedHost, []),
    (.library (sharedFile "b.ts"), renewedHost, []),
    (.library (sharedFile "b.ts"), renewedHost, []),
    (.library (sharedFile "a.ts"), sharedProject.host, [])]

/-- The turns of these calls, and the state after them. -/
def renewed : List (Turn (cacheCalls {})) × State :=
  playOn (cacheCalls {}) { sharedProject with cache := {} } renewedCalls

/-- The adapter keeps the generation with which it was loaded, though the files would now give another. -/
theorem cache_accounts_renewed :
    History (cacheCalls {}) { sharedProject with cache := {} } renewed.1 renewed.2 ∧
      renewed.2.cache.info = ⟨2, 1, 0, 1, 1⟩ ∧ renewed.2.cache.info = accountOf renewed.1 ∧
      (adaptersFound renewed.1).map (·.handle.generation) = [.legacy, .legacy, .legacy] ∧
      (uncached {} renewedHost (sharedFile "a.ts")).toOption.map (·.generation) = some .modern := by
  have hplayed : History (cacheCalls {}) { sharedProject with cache := {} } renewed.1 renewed.2 :=
    history_playOn (cacheCalls {}) _ renewedCalls
  obtain ⟨-, -, -, -, hinfo, -⟩ := cache_accounts hplayed
  exact ⟨hplayed, by decide +kernel, hinfo, by decide +kernel, by decide +kernel⟩

end LintBridge
