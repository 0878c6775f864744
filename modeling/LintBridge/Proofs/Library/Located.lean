-- SUMMARY: Where the library of a file is found, and that the search comes to that place.
import LintBridge.Proofs.Cache.LookupEnds
import LintBridge.Proofs.Library.Inquiry
import LintBridge.Proofs.Routine.Sought

/-!
# The place of the library

A directory of modules has a copy of a package where the package has a manifest. The copy that counts is the
one of the nearest directory of the project that has one, or else the one in the global directory of npm, or
else the one in that of yarn. A look-up that the system refuses ends the search before it comes to any of them.
-/

namespace LintBridge

open Library

namespace Library

/-! ## Copies of a package -/

/-- The manifest of a package, among the modules of a directory. A package whose name begins at the root stands for
itself. -/
def manifestIn (package : String) (modules : Path) : Path := (modules.child package).child manifestName

/-- The resolved directory of a package, among the modules of a directory. -/
def copyIn (h : Host) (package : String) (modules : Path) : Path := h.files.realPath (modules.child package)

/-- How looking for a copy of a package ends that has its manifest in the first of some directories of modules. -/
def SoughtCopy (h : Host) (package : String) (modules : List Path) (outcome : Except LintError (Option Path)) :
    Prop :=
  ∃ found, h.Sought (manifestIn package) modules found ∧ outcome = found.map (·.map (copyIn h package))

/-- The directories of modules in which a project is searched, from a directory. A directory of modules has none. -/
def modulesAbove (settings : Settings) (directory : Path) : List Path :=
  ((directory.chain.take settings.maxAscent).filter (·.name ≠ modulesName)).map (·.child modulesName)

/-- What looking in one source comes to, from a directory: a resolved copy, or none, or a refused look-up. -/
inductive Yields (settings : Settings) (h : Host) (Root : Source → Path → Prop) (directory : Path) :
    Source → Except LintError (Option Path) → Prop
  | project {outcome : Except LintError (Option Path)} :
      SoughtCopy h settings.packageName (modulesAbove settings directory) outcome →
      Yields settings h Root directory .project outcome
  | global {source : Source} {root : Path} {outcome : Except LintError (Option Path)} : source ≠ .project →
      Root source root → SoughtCopy h settings.packageName [root] outcome →
      Yields settings h Root directory source outcome
  | rootless {source : Source} : source ≠ .project → (∀ root, ¬Root source root) →
      Yields settings h Root directory source (.ok none)

/-- What looking in some sources for the library of a file comes to, one source after the other, with the sources
that are looked in. The first source that has a copy ends the search, and so does a look-up that is refused. -/
inductive Located (settings : Settings) (h : Host) (Root : Source → Path → Prop) (file : Path) :
    List Source → List Source → Except LintError (Path × Source) → Prop
  | found {source : Source} {rest : List Source} {p : Path} :
      Yields settings h Root file.parent source (.ok (some p)) →
      Located settings h Root file (source :: rest) [source] (.ok (p, source))
  | refused {source : Source} {rest : List Source} {e : LintError} :
      Yields settings h Root file.parent source (.error e) →
      Located settings h Root file (source :: rest) [source] (.error e)
  | next {source : Source} {rest looked : List Source} {result : Except LintError (Path × Source)} :
      Yields settings h Root file.parent source (.ok none) → Located settings h Root file rest looked result →
      Located settings h Root file (source :: rest) (source :: looked) result
  | nowhere : Located settings h Root file [] [] (.error (.noLibrary settings.packageName file))

section

variable {settings : Settings} {h h' : Host} {package : String} {modules rest : List Path} {m directory : Path}
  {outcome outcome' : Except LintError (Option Path)} {Root : Source → Path → Prop} {source : Source}

theorem SoughtCopy.unique (hs : SoughtCopy h package modules outcome) (hs' : SoughtCopy h package modules outcome') :
    outcome = outcome' := by
  obtain ⟨found, hfound, rfl⟩ := hs
  obtain ⟨found', hfound', rfl⟩ := hs'
  rw [hfound.unique hfound']

theorem soughtCopy_nil : SoughtCopy h package [] (.ok none) := ⟨_, Host.sought_nil, rfl⟩

theorem soughtCopy_cons_of_true (hm : h.isFile (manifestIn package m) = .ok true) :
    SoughtCopy h package (m :: rest) (.ok (some (copyIn h package m))) :=
  ⟨_, Host.sought_cons_of_true hm, rfl⟩

theorem soughtCopy_cons_of_error {cause : FileError} (hm : h.isFile (manifestIn package m) = .error cause) :
    SoughtCopy h package (m :: rest) (.error (.unsearchable (manifestIn package m) cause)) :=
  ⟨_, Host.sought_cons_of_error hm, rfl⟩

theorem SoughtCopy.cons (hm : h.isFile (manifestIn package m) = .ok false) (hrest : SoughtCopy h package rest outcome) :
    SoughtCopy h package (m :: rest) outcome := by
  obtain ⟨found, hfound, rfl⟩ := hrest
  exact ⟨found, hfound.cons hm, rfl⟩

theorem SoughtCopy.of_marked (hm : h.Marked h') (hs : SoughtCopy h package modules outcome) :
    SoughtCopy h' package modules outcome := by
  obtain ⟨found, hfound, rfl⟩ := hs
  have hcopy : copyIn h package = copyIn h' package := funext fun m => hm.realPath _
  exact ⟨found, hfound.of_isFile hm.isFile, by rw [hcopy]⟩

theorem Yields.of_marked (hm : h.Marked h') (hy : Yields settings h Root directory source outcome) :
    Yields settings h' Root directory source outcome := by
  cases hy with
  | project hs => exact .project (hs.of_marked hm)
  | global hne hroot hs => exact .global hne hroot (hs.of_marked hm)
  | rootless hne hnone => exact .rootless hne hnone

/-- What a source yields depends on the global directory of that source alone. -/
theorem Yields.congr {Root' : Source → Path → Prop} (hy : Yields settings h Root directory source outcome)
    (hroot : source ≠ .project → ∀ p, Root source p ↔ Root' source p) :
    Yields settings h Root' directory source outcome := by
  cases hy with
  | project hs => exact .project hs
  | global hne hp hs => exact .global hne ((hroot hne _).1 hp) hs
  | rootless hne hnone => exact .rootless hne fun p => mt (hroot hne p).2 (hnone p)

end

/-! ## The search in a project -/

/-- What looking for the manifest of one copy comes to. -/
def copyOutcome (h : Host) (package : String) (modules : Path) : Except LintError (Option Path) :=
  ((h.isFile (manifestIn package modules)).mapError (.unsearchable (manifestIn package modules))).map
    fun found => if found then some (copyIn h package modules) else none

/-- Looking for one copy changes nothing. -/
theorem runOn_packageIn (package : String) (modules : Path) (s : State) :
    (packageIn package modules).runOn s = (copyOutcome s.host package modules, s) := by
  have hlook := Attempt.runOn_isFile (LintError.unsearchable (manifestIn package modules))
    (manifestIn package modules) s
  rw [copyOutcome]
  cases hfile : s.host.isFile (manifestIn package modules) with
  | error cause =>
    rw [hfile] at hlook
    exact Attempt.runOn_bind_error hlook
  | ok found =>
    rw [hfile] at hlook
    have hrun : (packageIn package modules).runOn s = _ := Attempt.runOn_bind_ok hlook
    rw [hrun]
    cases found with
    | true => rfl
    | false => rfl

theorem soughtCopy_copyOutcome (h : Host) (package : String) (modules : Path) :
    SoughtCopy h package [modules] (copyOutcome h package modules) := by
  rw [copyOutcome]
  cases hfile : h.isFile (manifestIn package modules) with
  | error cause => exact soughtCopy_cons_of_error hfile
  | ok found =>
    cases found with
    | true => exact soughtCopy_cons_of_true hfile
    | false => exact soughtCopy_nil.cons hfile

/-- The search comes to the copy of the nearest directory that has one. -/
theorem runOn_searchDirectories (package : String) (directories : List Path) (s : State) :
    ∃ outcome, (searchDirectories package directories).runOn s = (outcome, s) ∧
      SoughtCopy s.host package ((directories.filter (·.name ≠ modulesName)).map (·.child modulesName)) outcome := by
  induction directories with
  | nil => exact ⟨_, rfl, soughtCopy_nil⟩
  | cons directory rest ih =>
    rw [searchDirectories]
    split
    next hmodules => simpa [hmodules] using ih
    next hmodules =>
      have hlook := runOn_packageIn package (directory.child modulesName) s
      rw [List.filter_cons_of_pos (by simpa using hmodules), List.map_cons]
      rw [copyOutcome] at hlook
      cases hfile : s.host.isFile (manifestIn package (directory.child modulesName)) with
      | error cause =>
        rw [hfile] at hlook
        exact ⟨_, Attempt.runOn_bind_error hlook, soughtCopy_cons_of_error hfile⟩
      | ok found =>
        rw [hfile] at hlook
        rw [Attempt.runOn_bind_ok hlook]
        cases found with
        | true => exact ⟨_, rfl, soughtCopy_cons_of_true hfile⟩
        | false =>
          obtain ⟨outcome, hrun, hsought⟩ := ih
          exact ⟨outcome, hrun, hsought.cons hfile⟩

end Library

/-! ## The global directories -/

namespace State

/-- The global directory of a source that a search uses: the one that is remembered, or else the one that the
package manager names. -/
inductive UsesRoot (s : State) (source : Source) (root : Path) : Prop
  | remembered : s.cache.rootOf source = some (some root) → UsesRoot s source root
  | named : s.cache.rootOf source = none → GlobalRoot s.host source root → UsesRoot s source root

theorem usesRoot_of_some {s : State} {source : Source} {known : Option Path}
    (h : s.cache.rootOf source = some known) {root : Path} : s.UsesRoot source root ↔ known = some root := by
  constructor
  · rintro (hknown | ⟨hnone, -⟩)
    · exact Option.some.inj (h.symm.trans hknown)
    · cases h.symm.trans hnone
  · rintro rfl
    exact .remembered h

theorem usesRoot_of_none {s : State} {source : Source} (h : s.cache.rootOf source = none) {root : Path} :
    s.UsesRoot source root ↔ GlobalRoot s.host source root := by
  refine ⟨?_, .named h⟩
  rintro (hknown | ⟨-, hroot⟩)
  · cases h.symm.trans hknown
  · exact hroot

/-- The child processes that are started for the global directory of a source. -/
inductive Consults (s : State) (source : Source) : List Command.Call → Prop
  | remembered {root : Option Path} : s.cache.rootOf source = some root → Consults s source []
  | inquired {calls : List Command.Call} : s.cache.rootOf source = none → Inquired s.host source calls →
      Consults s source calls

/-- From one state to a later one at most files have been marked, and the global directories of some sources
have become known. -/
structure Learns (P : Source → Prop) (s s' : State) : Prop where
  host : s.host.Marked s'.host
  kept : ∀ source root, s.cache.rootOf source = some root → s'.cache.rootOf source = some root
  learned : ∀ source root, s'.cache.rootOf source = some root → s.cache.rootOf source = none →
    P source ∧ ∀ p, root = some p ↔ GlobalRoot s.host source p

namespace Learns

variable {P Q : Source → Prop} {s s' s'' : State}

theorem of_cache_eq (hhost : s.host.Marked s'.host) (hcache : s'.cache = s.cache) : s.Learns P s' where
  host := hhost
  kept source root h := by rw [hcache, h]
  learned source root h hnone := by
    rw [hcache, hnone] at h
    cases h

theorem mono (h : s.Learns P s') (hPQ : ∀ source, P source → Q source) : s.Learns Q s' :=
  ⟨h.host, h.kept, fun source root hsome hnone =>
    ⟨hPQ source (h.learned source root hsome hnone).1, (h.learned source root hsome hnone).2⟩⟩

theorem trans (h : s.Learns P s') (h' : s'.Learns P s'') : s.Learns P s'' where
  host := h.host.trans h'.host
  kept source root hroot := h'.kept source root (h.kept source root hroot)
  learned source root hroot hnone := by
    cases hbetween : s'.cache.rootOf source with
    | some root' =>
      obtain rfl : root' = root := Option.some.inj ((h'.kept _ _ hbetween).symm.trans hroot)
      exact h.learned source root' hbetween hnone
    | none =>
      obtain ⟨hP, hnamed⟩ := h'.learned source root hroot hbetween
      exact ⟨hP, fun p => (hnamed p).trans
        ⟨globalRoot_of_marked h.host.symm, globalRoot_of_marked h.host⟩⟩

/-- What is known of the other sources stays. -/
theorem rootOf_eq (h : s.Learns P s') {source : Source} (hnot : ¬P source) :
    s'.cache.rootOf source = s.cache.rootOf source := by
  cases hroot : s.cache.rootOf source with
  | some root => exact h.kept source root hroot
  | none =>
    cases hroot' : s'.cache.rootOf source with
    | none => rfl
    | some root => exact absurd (h.learned source root hroot' hroot).1 hnot

/-- The global directories in use stay the same. -/
theorem usesRoot_iff (h : s.Learns P s') {source : Source} {root : Path} :
    s'.UsesRoot source root ↔ s.UsesRoot source root := by
  cases hroot : s.cache.rootOf source with
  | some known => rw [usesRoot_of_some hroot, usesRoot_of_some (h.kept source known hroot)]
  | none =>
    rw [usesRoot_of_none hroot]
    cases hroot' : s'.cache.rootOf source with
    | some known => rw [usesRoot_of_some hroot', (h.learned source known hroot' hroot).2]
    | none =>
      rw [usesRoot_of_none hroot']
      exact ⟨globalRoot_of_marked h.host.symm, globalRoot_of_marked h.host⟩

end Learns

theorem Consults.of_learns {P : Source → Prop} {s s' : State} {source : Source} {calls : List Command.Call}
    (h : s'.Consults source calls) (hlearns : s.Learns P s') (hnot : ¬P source) : s.Consults source calls := by
  have hsame := hlearns.rootOf_eq hnot
  cases h with
  | remembered hroot => exact .remembered (hsame.symm.trans hroot)
  | inquired hnone hcalls =>
    exact .inquired (hsame.symm.trans hnone) (inquired_of_marked hlearns.host.symm hcalls)

theorem Consults.eq_nil {s : State} {calls : List Command.Call} (h : s.Consults .project calls) : calls = [] := by
  cases h with
  | remembered => rfl
  | inquired _ hcalls => cases hcalls; rfl

end State

/-- A question about what stands at a path. -/
def Query.OfPlaces : Query → Prop
  | .isFile _ | .realPath _ => True
  | _ => False

namespace Library

variable {settings : Settings} {directory file : Path} {source : Source} {s s₁ s' : State}

/-- What is not to be asked is not asked. -/
theorem not_mem_asked {ε α : Type} {P : Query → Prop} {r : Attempt ε α} (h : r.Asks P) {q : Query} (hq : ¬P q) :
    q ∉ r.asked s := fun hmem => hq (h.asked s q hmem)

theorem callsStarted_of_places {ε α : Type} {r : Attempt ε α} (h : r.Asks Query.OfPlaces) :
    callsStarted (r.asked s) = [] := by
  refine List.filterMap_eq_nil_iff.2 fun q hq => ?_
  have hplaces := h.asked s q hq
  cases q with
  | start => exact hplaces.elim
  | _ => rfl

theorem usesRoot_unique {root root' : Path} (h : s.UsesRoot source root) (h' : s.UsesRoot source root') :
    root = root' := by
  cases hknown : s.cache.rootOf source with
  | some known =>
    rw [State.usesRoot_of_some hknown] at h h'
    exact Option.some.inj (h.symm.trans h')
  | none =>
    rw [State.usesRoot_of_none hknown] at h h'
    obtain ⟨found, -, hfound, -⟩ := runOn_rootQuestion source s
    exact Option.some.inj (((hfound _).2 h).symm.trans ((hfound _).2 h'))

/-- A global directory is used, and known from then on. -/
theorem runOn_globalRoot (source : Source) (s : State) :
    ∃ root s', (globalRoot source (rootQuestion source)).runOn s = (.ok root, s') ∧ s.Learns (· = source) s' ∧
      s'.cache.rootOf source = some root ∧ (∀ p, root = some p ↔ s.UsesRoot source p) ∧
      s.Consults source (callsStarted ((globalRoot source (rootQuestion source)).asked s)) ∧
      ∀ other, .rootOf other ∈ (globalRoot source (rootQuestion source)).asked s ↔ other = source := by
  have hstep : (Attempt.step (.rootOf source) : Attempt LintError _).runOn s = (.ok (s.cache.rootOf source), s) :=
    Attempt.runOn_step _ s
  rw [globalRoot, Attempt.runOn_bind_ok hstep, Attempt.asked_bind_ok hstep, callsStarted_append]
  cases hroot : s.cache.rootOf source with
  | some known =>
    refine ⟨known, s, rfl, .of_cache_eq (.refl _) rfl, hroot, fun p => (State.usesRoot_of_some hroot).symm,
      .remembered hroot, fun other => ?_⟩
    change Query.rootOf other ∈ [.rootOf source] ++ [] ↔ _
    simp
  | none =>
    obtain ⟨root, hquestion, hnamed, hcalls⟩ := runOn_rootQuestion source s
    have hhost := marked_search (asks_rootQuestion source).ofSearch s
    have hcache := Routine.Asks.cache_run (asks_rootQuestion source).ofHost s
    have hasked (other : Source) : .rootOf other ∉ (rootQuestion source).asked s :=
      not_mem_asked (asks_rootQuestion source) id
    have hrun : (rootQuestion source).runOn s = (.ok root, ((rootQuestion source).runOn s).2) := Prod.ext hquestion rfl
    change s.host.Marked ((rootQuestion source).runOn s).2.host at hhost
    change ((rootQuestion source).runOn s).2.cache = s.cache at hcache
    generalize ((rootQuestion source).runOn s).2 = s₁ at hrun hhost hcache
    have hkeep : (Attempt.step (.keepRoot source root) : Attempt LintError _).runOn s₁ =
        (.ok (), { s₁ with cache := s₁.cache.keepRoot source root }) := Attempt.runOn_step _ s₁
    have hrootOf (other : Source) : (s₁.cache.keepRoot source root).rootOf other =
        if source = other then some root else s.cache.rootOf other := by
      rw [Cache.rootOf, Cache.keepRoot, Table.find?_put, hcache]
      rfl
    simp only [Attempt.runOn_bind_ok hrun, Attempt.asked_bind_ok hrun, callsStarted_append,
      Attempt.runOn_bind_ok hkeep, Attempt.asked_bind_ok hkeep]
    refine ⟨root, { s₁ with cache := s₁.cache.keepRoot source root }, rfl, ⟨hhost, ?_, ?_⟩, ?_,
      fun p => (hnamed p).trans (State.usesRoot_of_none hroot).symm, .inquired hroot ?_, fun other => ?_⟩
    · intro other known hknown
      have hne : source ≠ other := by
        rintro rfl
        cases hroot.symm.trans hknown
      rw [hrootOf, if_neg hne, hknown]
    · intro other known hknown hnone
      rw [hrootOf] at hknown
      split at hknown
      next heq =>
        cases hknown
        exact ⟨heq.symm, heq ▸ hnamed⟩
      next => cases hnone.symm.trans hknown
    · rw [hrootOf, if_pos rfl]
    · change Inquired s.host source (callsStarted ((rootQuestion source).asked s) ++ [])
      rwa [List.append_nil]
    · change Query.rootOf other ∈ [.rootOf source] ++ ((rootQuestion source).asked s ++ [.keepRoot source root]) ↔ _
      simp [hasked]

/-! ## The search of one source -/

/-- How the search of a source ends: what it comes to, the questions that it asks, and the state that it leaves. -/
structure Searched (settings : Settings) (directory : Path) (source : Source) (s : State)
    (outcome : Except LintError (Option Path)) (questions : List Query) (s' : State) : Prop where
  learns : s.Learns (fun other => other = source ∧ source ≠ .project) s'
  known : source ≠ .project → (s'.cache.rootOf source).isSome
  looks : ∀ other, .rootOf other ∈ questions ↔ other = source ∧ source ≠ .project
  yields : Yields settings s.host s.UsesRoot directory source outcome
  calls : s.Consults source (callsStarted questions)

theorem searched_project (settings : Settings) (directory : Path) (s : State) :
    ∃ outcome s', (searchSource settings directory .project).runOn s = (outcome, s') ∧
      Searched settings directory .project s outcome ((searchSource settings directory .project).asked s) s' := by
  obtain ⟨outcome, hrun, hsought⟩ := runOn_searchDirectories settings.packageName
    (directory.ancestors (some settings.maxAscent)) s
  have hasks : (searchSource settings directory .project).Asks Query.OfPlaces :=
    asks_searchDirectories_of (fun _ => trivial) (fun _ => trivial) ..
  have hasked (other : Source) : .rootOf other ∉ (searchSource settings directory .project).asked s :=
    not_mem_asked hasks id
  rw [Path.ancestors_eq, Int.toNat_natCast] at hsought
  refine ⟨outcome, s, hrun, .of_cache_eq (.refl _) rfl, fun h => absurd rfl h, fun other => ?_, .project hsought, ?_⟩
  · simp [hasked]
  · rw [callsStarted_of_places hasks]
    cases hroot : s.cache.rootOf .project with
    | some root => exact .remembered hroot
    | none => exact .inquired hroot .project

theorem searched_global (settings : Settings) (directory : Path) {source : Source} (hne : source ≠ .project)
    (s : State) :
    ∃ outcome s', (searchGlobal settings.packageName source (rootQuestion source)).runOn s = (outcome, s') ∧
      Searched settings directory source s outcome
        ((searchGlobal settings.packageName source (rootQuestion source)).asked s) s' := by
  obtain ⟨root, s', hrun, hlearns, hknown, hroot, hcalls, hlooks⟩ := runOn_globalRoot source s
  have hlearns := hlearns.mono fun other (h : other = source) => And.intro h hne
  have hsome : (s'.cache.rootOf source).isSome := by rw [hknown, Option.isSome_some]
  rw [searchGlobal, Attempt.runOn_bind_ok hrun, Attempt.asked_bind_ok hrun]
  cases root with
  | none =>
    refine ⟨.ok none, s', rfl, hlearns, fun _ => hsome, fun other => ?_, .rootless hne fun p hp => ?_, ?_⟩
    · simp [hlooks, hne]
    · cases (hroot p).2 hp
    · rw [callsStarted_append]
      exact (List.append_nil _).symm ▸ hcalls
  | some root =>
    have hasks : (packageIn settings.packageName root).Asks Query.OfPlaces :=
      asks_packageIn_of (fun _ => trivial) (fun _ => trivial) ..
    have hasked (other : Source) : .rootOf other ∉ (packageIn settings.packageName root).asked s' :=
      not_mem_asked hasks id
    refine ⟨_, s', runOn_packageIn settings.packageName root s', hlearns, fun _ => hsome, fun other => ?_,
      .global hne ((hroot root).1 rfl) ((soughtCopy_copyOutcome ..).of_marked hlearns.host.symm), ?_⟩
    · simp [hlooks, hne, hasked]
    · rwa [callsStarted_append, callsStarted_of_places hasks, List.append_nil]

/-- Each source is searched for its copy. -/
theorem searched_searchSource (settings : Settings) (directory : Path) (source : Source) (s : State) :
    ∃ outcome s', (searchSource settings directory source).runOn s = (outcome, s') ∧
      Searched settings directory source s outcome ((searchSource settings directory source).asked s) s' := by
  cases source with
  | project => exact searched_project settings directory s
  | npm => exact searched_global settings directory (by simp) s
  | yarn => exact searched_global settings directory (by simp) s

/-- A source yields one outcome. -/
theorem yields_unique {outcome outcome' : Except LintError (Option Path)}
    (h : Yields settings s.host s.UsesRoot directory source outcome)
    (h' : Yields settings s.host s.UsesRoot directory source outcome') : outcome = outcome' := by
  cases h with
  | project hs =>
    cases h' with
    | project hs' => exact hs.unique hs'
    | global hne => exact absurd rfl hne
    | rootless hne => exact absurd rfl hne
  | global hne hroot hs =>
    cases h' with
    | project => exact absurd rfl hne
    | global _ hroot' hs' =>
      obtain rfl := usesRoot_unique hroot hroot'
      exact hs.unique hs'
    | rootless _ hnone => exact absurd hroot (hnone _)
  | rootless hne hnone =>
    cases h' with
    | project => exact absurd rfl hne
    | global _ hroot => exact absurd hroot (hnone _)
    | rootless => rfl

/-! ## The search of all sources -/

/-- The child processes that a search starts, by the sources that it looks in. -/
inductive Starts (s : State) : List Source → List Command.Call → Prop
  | nil : Starts s [] []
  | cons {source : Source} {rest : List Source} {calls calls' : List Command.Call} : s.Consults source calls →
      Starts s rest calls' → Starts s (source :: rest) (calls ++ calls')

/-- How a search for the library of a file ends. -/
structure LocateEnd (settings : Settings) (file : Path) (sources looked : List Source) (s : State)
    (result : Except LintError (Path × Source)) (questions : List Query) (s' : State) : Prop where
  learns : s.Learns (fun source => source ∈ looked ∧ source ≠ .project) s'
  known : ∀ source ∈ looked, source ≠ .project → (s'.cache.rootOf source).isSome
  looks : ∀ source, .rootOf source ∈ questions ↔ source ∈ looked ∧ source ≠ .project
  located : Located settings s.host s.UsesRoot file sources looked result
  starts : Starts s looked (callsStarted questions)

/-- What a search that found nothing means. -/
def orMissing (settings : Settings) (file : Path) (found : Option (Path × Source)) :
    Except LintError (Path × Source) :=
  found.elim (.error (.noLibrary settings.packageName file)) .ok

theorem Located.subset {h : Host} {Root : Source → Path → Prop} {sources looked : List Source}
    {result : Except LintError (Path × Source)} (hl : Located settings h Root file sources looked result) :
    looked <+: sources := by
  induction hl with
  | found => simp
  | refused => simp
  | next _ _ ih => exact List.cons_prefix_cons.2 ⟨rfl, ih⟩
  | nowhere => exact List.prefix_rfl

/-- A location depends only on the global directories of the sources that are looked in. -/
theorem Located.congr {h h' : Host} {Root Root' : Source → Path → Prop} {sources looked : List Source}
    {result : Except LintError (Path × Source)} (hl : Located settings h Root file sources looked result)
    (hm : h.Marked h') (hroot : ∀ source ∈ looked, source ≠ .project → ∀ p, Root source p ↔ Root' source p) :
    Located settings h' Root' file sources looked result := by
  induction hl with
  | found hy => exact .found ((hy.of_marked hm).congr (hroot _ (List.mem_singleton_self _)))
  | refused hy => exact .refused ((hy.of_marked hm).congr (hroot _ (List.mem_singleton_self _)))
  | next hy _ ih =>
    rw [List.forall_mem_cons] at hroot
    exact .next ((hy.of_marked hm).congr hroot.1) (ih hroot.2)
  | nowhere => exact .nowhere

/-- What a search starts after it has learned of other sources is what it would have started before. -/
theorem Starts.of_learns {P : Source → Prop} {looked : List Source} {calls : List Command.Call}
    (h : Starts s₁ looked calls) (hlearns : s.Learns P s₁) (hnot : ∀ source ∈ looked, ¬P source) :
    Starts s looked calls := by
  induction h with
  | nil => exact .nil
  | cons hcalls _ ih =>
    rw [List.forall_mem_cons] at hnot
    exact .cons (hcalls.of_learns hlearns hnot.1) (ih hnot.2)

/-- Logging is no part of a search. -/
theorem Searched.log {outcome : Except LintError (Option Path)} {questions : List Query}
    (h : Searched settings directory source s outcome questions s') (record : Log.Record) :
    Searched settings directory source s outcome (questions ++ [.log record]) (s'.log record) where
  learns := h.learns.trans (.of_cache_eq (s'.host_log record ▸ .refl _) (s'.cache_log record))
  known hne := by
    rw [State.cache_log]
    exact h.known hne
  looks other := by simp [h.looks]
  yields := h.yields
  calls := by
    rw [callsStarted_append]
    exact (List.append_nil _).symm ▸ h.calls

/-- A search that ends with a source has looked in that one. -/
theorem Searched.ends {outcome : Except LintError (Option Path)} {questions : List Query} {sources : List Source}
    {result : Except LintError (Path × Source)} (h : Searched settings file.parent source s outcome questions s')
    (hlocated : Located settings s.host s.UsesRoot file sources [source] result) :
    LocateEnd settings file sources [source] s result questions s' where
  learns := h.learns.mono fun _ hother => ⟨List.mem_singleton.2 hother.1, hother.1 ▸ hother.2⟩
  known other hother hne := by
    rw [List.mem_singleton.1 hother] at hne ⊢
    exact h.known hne
  looks other := by
    rw [h.looks, List.mem_singleton]
    exact and_congr_right fun hother => hother ▸ .rfl
  located := hlocated
  starts := by
    rw [← List.append_nil (callsStarted questions)]
    exact .cons h.calls .nil

/-- A search goes on after a source that has no copy. -/
theorem Searched.next {questions questions' : List Query} {rest looked : List Source}
    {result : Except LintError (Path × Source)}
    (h : Searched settings file.parent source s (.ok none) questions s₁)
    (hrest : LocateEnd settings file rest looked s₁ result questions' s') (hnew : source ∉ rest) :
    LocateEnd settings file (source :: rest) (source :: looked) s result (questions ++ questions') s' where
  learns := by
    refine (h.learns.mono ?_).trans (hrest.learns.mono fun other hother => ⟨List.mem_cons_of_mem _ hother.1, hother.2⟩)
    rintro other ⟨rfl, hne⟩
    exact ⟨List.mem_cons_self, hne⟩
  known other hother hne := by
    rcases List.mem_cons.1 hother with rfl | hother
    · obtain ⟨root, hroot⟩ := Option.isSome_iff_exists.1 (h.known hne)
      rw [hrest.learns.kept other root hroot]
      rfl
    · exact hrest.known other hother hne
  looks other := by
    rw [List.mem_append, h.looks, hrest.looks, List.mem_cons, or_and_right]
    exact or_congr_left (and_congr_right fun hother => hother ▸ .rfl)
  located := by
    refine .next h.yields (hrest.located.congr h.learns.host.symm fun other _ _ p => h.learns.usesRoot_iff)
  starts := by
    rw [callsStarted_append]
    refine .cons h.calls (hrest.starts.of_learns h.learns ?_)
    rintro other hother ⟨rfl, -⟩
    exact hnew (hrest.located.subset.subset hother)

/-- Every search comes to an end of this kind. -/
theorem searchSources_ends (settings : Settings) (file : Path) {sources : List Source} (hnew : sources.Nodup)
    (s : State) :
    ∃ looked result s', (searchSources settings file.parent sources).runOn s = (result, s') ∧
      LocateEnd settings file sources looked s (result >>= orMissing settings file)
        ((searchSources settings file.parent sources).asked s) s' := by
  induction sources generalizing s with
  | nil =>
    exact ⟨[], .ok none, s, rfl, .of_cache_eq (.refl _) rfl, by simp, by simp [searchSources], .nowhere, .nil⟩
  | cons source rest ih =>
    obtain ⟨hsource, hrest⟩ := List.nodup_cons.1 hnew
    obtain ⟨outcome, s₁, hrun, hend⟩ := searched_searchSource settings file.parent source s
    rw [searchSources]
    cases outcome with
    | error e =>
      rw [Attempt.runOn_bind_error hrun, Attempt.asked_bind_error hrun]
      exact ⟨[source], _, _, rfl, hend.ends (.refused hend.yields)⟩
    | ok found =>
      rw [Attempt.runOn_bind_ok hrun, Attempt.asked_bind_ok hrun]
      cases found with
      | some p => exact ⟨[source], _, _, rfl, (hend.log _).ends (.found hend.yields)⟩
      | none =>
        obtain ⟨looked, result, s', hrun', hend'⟩ := ih hrest (s₁.log _)
        refine ⟨source :: looked, result, s', hrun', ?_⟩
        have hall := (hend.log _).next hend' hsource
        rwa [List.append_assoc] at hall

/-- The sources, in the order in which they are looked in. -/
abbrev Source.inOrder : List Source := [.project, .npm, .yarn]

/-- Every search for the library of a file comes to an end of this kind. -/
theorem locate_ends (settings : Settings) (file : Path) (s : State) :
    ∃ looked, LocateEnd settings file Source.inOrder looked s ((locate settings file).runOn s).1
      ((locate settings file).asked s) ((locate settings file).runOn s).2 := by
  have hdistinct : Source.inOrder.Nodup := by decide
  obtain ⟨looked, result, s', hrun, hend⟩ := searchSources_ends settings file hdistinct s
  refine ⟨looked, ?_⟩
  rw [locate]
  cases result with
  | error e =>
    rw [Attempt.runOn_bind_error hrun, Attempt.asked_bind_error hrun]
    exact hend
  | ok found =>
    rw [Attempt.runOn_bind_ok hrun, Attempt.asked_bind_ok hrun]
    cases found with
    | none => exact (List.append_nil _).symm ▸ hend
    | some found => exact (List.append_nil _).symm ▸ hend

/-! ## The place that is found -/

/-- A library is located in one way only. -/
theorem located_unique {sources looked looked' : List Source} {result result' : Except LintError (Path × Source)}
    (h : Located settings s.host s.UsesRoot file sources looked result)
    (h' : Located settings s.host s.UsesRoot file sources looked' result') : looked = looked' ∧ result = result' := by
  induction h generalizing looked' with
  | found hy =>
    cases h' with
    | found hy' => cases yields_unique hy hy'; exact ⟨rfl, rfl⟩
    | refused hy' => cases yields_unique hy hy'
    | next hy' => cases yields_unique hy hy'
  | refused hy =>
    cases h' with
    | found hy' => cases yields_unique hy hy'
    | refused hy' => cases yields_unique hy hy'; exact ⟨rfl, rfl⟩
    | next hy' => cases yields_unique hy hy'
  | next hy _ ih =>
    cases h' with
    | found hy' => cases yields_unique hy hy'
    | refused hy' => cases yields_unique hy hy'
    | next _ hrest' =>
      obtain ⟨rfl, rfl⟩ := ih hrest'
      exact ⟨rfl, rfl⟩
  | nowhere =>
    cases h' with
    | nowhere => exact ⟨rfl, rfl⟩

/-- The search comes to the place where the library is located, with the global directories in use. -/
theorem locate_eq_iff (settings : Settings) (file : Path) (s : State)
    (result : Except LintError (Path × Source)) :
    ((locate settings file).runOn s).1 = result ↔
      ∃ looked, Located settings s.host s.UsesRoot file Source.inOrder looked result := by
  obtain ⟨looked, hend⟩ := locate_ends settings file s
  constructor
  · rintro rfl
    exact ⟨looked, hend.located⟩
  · rintro ⟨looked', hlocated⟩
    exact (located_unique hend.located hlocated).2

/-- When no package manager has been asked before, the library of a file is the copy of the nearest directory
of the project that has one, or else the one in the global directory that npm names, or else the one in that
of yarn. It is missing exactly if there is none of them. A look-up that the system refuses ends the search. -/
theorem locate_fresh_iff (settings : Settings) (file : Path) {s : State} (hfresh : s.cache.roots = [])
    (result : Except LintError (Path × Source)) :
    ((locate settings file).runOn s).1 = result ↔
      ∃ looked, Located settings s.host (GlobalRoot s.host) file Source.inOrder looked result := by
  have hnone (source : Source) : s.cache.rootOf source = none := by
    rw [Cache.rootOf, hfresh]
    rfl
  have huses : s.UsesRoot = GlobalRoot s.host :=
    funext₂ fun source _ => propext (State.usesRoot_of_none (hnone source))
  rw [locate_eq_iff, huses]

/-- A project whose library is a link to a directory that no program can read a manifest in. -/
def linkedProject : Host where
  files := ⟨[(["p"], .directory), (["p", "node_modules"], .directory),
    (["p", "node_modules", "a"], .directory), (["p", "node_modules", "tslint"], .link "../../store/tslint"),
    (["store"], .directory), (["store", "tslint"], .directory),
    (["store", "tslint", "package.json"], .file none 1)], []⟩
  environment := []
  executables := []
  replies := fun _ => { outcome := .refused "" }

/-- The walk up from a package of the project passes the directory of modules by. -/
theorem located_linked :
    linkedProject.fresh.cache.roots = [] ∧
      ∃ looked, Located {} linkedProject (GlobalRoot linkedProject) ⟨.root, ["p", "node_modules", "a", "b.ts"]⟩
        Source.inOrder looked (.ok (⟨.root, ["store", "tslint"]⟩, .project)) :=
  have hfresh : linkedProject.fresh.cache.roots = [] := rfl
  ⟨hfresh, (locate_fresh_iff {} _ hfresh _).1 (toOption_eq_some_iff.1 (by decide +kernel))⟩

/-! ## Copies that are not below a directory of modules -/

/-- A host with two copies of the library, neither of them below a project. A package manager names the place of one
of them, and complains in something that is not UTF-8. -/
def outsideHost : Host where
  files := ⟨[(["p"], .directory), (["opt"], .directory), (["opt", "tslint"], .directory),
    (["opt", "tslint", "package.json"], .file (some []) 1), (["r"], .directory), (["r", "tslint"], .directory),
    (["r", "tslint", "package.json"], .file (some []) 1)], []⟩
  environment := []
  executables := [("npm", "/bin/npm")]
  replies call :=
    { outcome := match call.argv with
        | [_, "root", "-g"] => .exited 0 (some "/r\n") (some (.bytes [0xff]))
        | _ => .refused "" }

/-- Settings with a package in one place for all files. -/
def rootedPackage : Settings := { packageName := "/opt/tslint", maxAscent := 2 }

/-- Not every copy that is found in a project is below a directory of modules: a package whose name begins at the
root is found although nothing is at its place below any of the directories. Nor is every root used that a package
manager names: what it writes besides must be UTF-8. -/
theorem located_from_outside :
    let file : Path := ⟨.root, ["p", "a.ts"]⟩
    (((locate rootedPackage file).runOn outsideHost.fresh).1.toOption = some (⟨.root, ["opt", "tslint"]⟩, .project) ∧
      ∀ directory ∈ file.parent.chain.take rootedPackage.maxAscent,
        outsideHost.files.isFile (.ofString
          s!"{directory.text}/{modulesName}/{rootedPackage.packageName}/{manifestName}") = false) ∧
      Text.IsLastLine "/r\n" "/r" ∧ outsideHost.files.isFile (manifestIn "tslint" (.ofString "/r")) = true ∧
        ((locate {} file).runOn outsideHost.fresh).1.toOption = none := by
  intro file
  have hchain : file.parent.chain.take rootedPackage.maxAscent = [⟨.root, ["p"]⟩, ⟨.root, []⟩] :=
    (Path.ancestors_eq rootedPackage.maxAscent _).symm.trans (by decide +kernel)
  rw [hchain]
  exact ⟨⟨by decide +kernel, by decide +kernel⟩, lastLine_eq_some_iff.1 (by decide +kernel), by decide +kernel,
    by decide +kernel⟩

end Library

end LintBridge
