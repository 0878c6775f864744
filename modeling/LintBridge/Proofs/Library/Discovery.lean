-- SUMMARY: The global directories are found lazily and once, over all histories of calls on one search.
import LintBridge.Library.Calls
import LintBridge.Proofs.Library.Located
import LintBridge.Proofs.Routine.History
import LintBridge.Proofs.Service.Errors

/-!
# Discovery of global directories

A call on the search looks in the global directory of a source only when it has found nothing before. The
first call that does asks the package manager, and every later one uses what that one was told, also when it
was told nothing. How the host changes between calls makes no difference to that.
-/

namespace LintBridge

open Library

variable {settings : Settings}

/-! ## What one call does -/

/-- The file whose library a call is about. -/
def LibraryCall.file : LibraryCall → Path
  | .locate file | .resolve file => file

/-- What a call comes to, where its library has been located. A library that is there may fail to load, and
then it does so in a stray way. -/
inductive LibraryCall.ComesTo :
    (call : LibraryCall) → call.Result → Except LintError (Path × Source) → Prop
  | located {file : Path} {result : Except LintError (Path × Source)} :
      ComesTo (.locate file) result result
  | missing {file : Path} {e : LintError} : ComesTo (.resolve file) (.error e) (.error e)
  | loaded {file : Path} {handle : Handle} {source : Source} :
      ComesTo (.resolve file) (.ok handle) (.ok (handle.path, source))
  | failed {file : Path} {e : LintError} {found : Path × Source} : e.Stray →
      ComesTo (.resolve file) (.error e) (.ok found)

namespace Turn

/-- The child processes that a call starts, in order. -/
def calls {c : Calls} (turn : Turn c) : List Command.Call := callsStarted turn.asked

/-- Where a call locates the library. -/
def located (turn : Turn (libraryCalls settings)) : Except LintError (Path × Source) :=
  ((locate settings turn.call.file).runOn turn.before).1

end Turn

theorem Library.LocateEnd.later {file : Path} {sources looked : List Source} {s s' s'' : State}
    {result : Except LintError (Path × Source)} {questions questions' : List Query}
    (h : LocateEnd settings file sources looked s result questions s') (hreads : ∀ q ∈ questions', q.Reads)
    (hhost : s'.host.Marked s''.host) (hcache : s''.cache = s'.cache) :
    LocateEnd settings file sources looked s result (questions ++ questions') s'' where
  learns := h.learns.trans (.of_cache_eq hhost hcache)
  known source hlooked hne := by
    rw [hcache]
    exact h.known source hlooked hne
  looks source := by
    have hnot : .rootOf source ∉ questions' := fun hmem => hreads _ hmem
    simp [h.looks, hnot]
  located := h.located
  starts := by
    have hnone : callsStarted questions' = [] := by
      refine List.filterMap_eq_nil_iff.2 fun q hq => ?_
      have hreads := hreads q hq
      cases q with
      | start => exact hreads.elim
      | _ => rfl
    rw [callsStarted_append, hnone, List.append_nil]
    exact h.starts

/-- Loading a library changes nothing. -/
theorem Library.quiet_load (package : String) (directory : Path) (source : Source) (s : State) :
    s.host.Marked ((load package directory source).runOn s).2.host ∧
      ((load package directory source).runOn s).2.cache = s.cache := by
  refine ⟨Routine.Asks.marked ((asks_reads_load package directory source).mono fun q hq => ?_) s,
    Routine.Asks.cache_run (asks_load package directory source) s⟩
  cases q with
  | write => exact hq.elim
  | _ => trivial

/-- Every call searches for its library first. -/
theorem Turn.ends (turn : Turn (libraryCalls settings)) :
    (∃ looked, LocateEnd settings turn.call.file Source.inOrder looked turn.before turn.located turn.asked
        turn.after) ∧
      turn.call.ComesTo turn.result turn.located := by
  obtain ⟨call, s⟩ := turn
  cases call with
  | locate file => exact ⟨locate_ends settings file s, .located⟩
  | resolve file =>
    change (∃ looked, LocateEnd settings file Source.inOrder looked s ((locate settings file).runOn s).1
      ((resolve settings file).asked s) ((resolve settings file).runOn s).2) ∧
        LibraryCall.ComesTo (.resolve file) ((resolve settings file).runOn s).1
          ((locate settings file).runOn s).1
    obtain ⟨looked, hend⟩ := locate_ends settings file s
    rw [resolve]
    cases hlocate : (locate settings file).runOn s with
    | mk located s' =>
      rw [hlocate] at hend
      cases located with
      | error e =>
        rw [Attempt.runOn_bind_error hlocate, Attempt.asked_bind_error hlocate]
        exact ⟨⟨looked, hend⟩, .missing⟩
      | ok found =>
        obtain ⟨directory, source⟩ := found
        obtain ⟨hhost, hcache⟩ := quiet_load settings.packageName directory source s'
        have hreads := (asks_reads_load settings.packageName directory source).asked s'
        simp only [Attempt.runOn_bind_ok hlocate, Attempt.asked_bind_ok hlocate]
        refine ⟨⟨looked, hend.later hreads hhost hcache⟩, ?_⟩
        cases hload : (load settings.packageName directory source).runOn s' with
        | mk result s'' =>
          cases result with
          | error e => exact .failed (strays_load _ _ _ s' e (congrArg Prod.fst hload))
          | ok handle =>
            rw [← path_load hload]
            exact .loaded

/-! ## Inquiries of one call -/

namespace Library

variable {s : State} {looked : List Source} {calls : List Command.Call}

theorem countP_consults {source : Source} (h : s.Consults source calls) (i : Inquiry) :
    calls.countP i.makes ≤ 1 ∧
      (0 < calls.countP i.makes → i.source = source ∧ s.cache.rootOf source = none) := by
  cases h with
  | remembered => simp
  | inquired hnone hcalls =>
    obtain ⟨hone, hsource⟩ := countP_inquired hcalls i
    exact ⟨hone, fun hi => ⟨hsource hi, hnone⟩⟩

/-- An inquiry is made once at most, and only about a source that is looked in and was not known. -/
theorem countP_starts (h : Starts s looked calls) (hnew : looked.Nodup) (i : Inquiry) :
    calls.countP i.makes ≤ 1 ∧
      (0 < calls.countP i.makes → i.source ∈ looked ∧ s.cache.rootOf i.source = none) := by
  induction h with
  | nil => simp
  | @cons source rest calls calls' hconsults _ ih =>
    obtain ⟨hsource, hrest⟩ := List.nodup_cons.1 hnew
    obtain ⟨hone, hfirst⟩ := countP_consults hconsults i
    obtain ⟨hone', hlater⟩ := ih hrest
    rw [List.countP_append]
    -- an inquiry is about one source, so it is made in one of the parts
    by_cases hpos : 0 < calls.countP i.makes
    · obtain ⟨rfl, hnone⟩ := hfirst hpos
      have hzero : ¬0 < calls'.countP i.makes := fun h => hsource (hlater h).1
      exact ⟨by omega, fun _ => ⟨List.mem_cons_self, hnone⟩⟩
    · refine ⟨by omega, fun h => ?_⟩
      obtain ⟨hlooked, hnone⟩ := hlater (by omega)
      exact ⟨List.mem_cons_of_mem _ hlooked, hnone⟩

/-- Every child process is that of an inquiry, made by the executable of its package manager. -/
theorem inquiry_of_inquired {h : Host} {source : Source} (hcalls : Inquired h source calls)
    {call : Command.Call} (hcall : call ∈ calls) : ∃ i : Inquiry, i.source = source ∧ i.call? h = some call := by
  cases hcalls with
  | project => cases hcall
  | npmRoot => exact ⟨.npmRoot, rfl, Option.mem_toList.1 hcall⟩
  | npmPrefix =>
    rcases List.mem_append.1 hcall with hcall | hcall
    · exact ⟨.npmRoot, rfl, Option.mem_toList.1 hcall⟩
    · exact ⟨.npmPrefix, rfl, Option.mem_toList.1 hcall⟩
  | yarnDirectory => exact ⟨.yarnDirectory, rfl, Option.mem_toList.1 hcall⟩

theorem inquiry_of_consults {source : Source} (h : s.Consults source calls) {call : Command.Call}
    (hcall : call ∈ calls) : ∃ i : Inquiry, i.source = source ∧ i.call? s.host = some call := by
  cases h with
  | remembered => cases hcall
  | inquired _ hcalls => exact inquiry_of_inquired hcalls hcall

theorem inquiry_of_starts (h : Starts s looked calls) {call : Command.Call} (hcall : call ∈ calls) :
    ∃ i : Inquiry, i.source ∈ looked ∧ i.call? s.host = some call := by
  induction h with
  | nil => cases hcall
  | cons hconsults _ ih =>
    rcases List.mem_append.1 hcall with hcall | hcall
    · obtain ⟨i, rfl, hi⟩ := inquiry_of_consults hconsults hcall
      exact ⟨i, List.mem_cons_self, hi⟩
    · obtain ⟨i, hlooked, hi⟩ := ih hcall
      exact ⟨i, List.mem_cons_of_mem _ hlooked, hi⟩

/-- No process of a search is one of an inquiry about a source that it does not look in. -/
theorem not_makes_of_starts (h : Starts s looked calls) {i : Inquiry} (hi : i.source ∉ looked) :
    ∀ call ∈ calls, ¬i.makes call := by
  intro call hcall hmakes
  obtain ⟨j, hj, hjcall⟩ := inquiry_of_starts h hcall
  rw [(Inquiry.makes_iff hjcall).1 hmakes] at hi
  exact hi hj

/-- The project itself needs no child process. -/
theorem eq_nil_of_starts (h : Starts s [.project] calls) : calls = [] := by
  cases h with
  | cons hconsults hrest =>
    cases hrest with
    | nil => rw [hconsults.eq_nil, List.append_nil]

theorem prefixAfterRoot_consults {rest : List Command.Call} (h : s.Consults .npm calls)
    (hrest : ∀ call ∈ rest, ¬Inquiry.npmPrefix.makes call) : PrefixAfterRoot s.host (calls ++ rest) := by
  cases h with
  | inquired _ hcalls => exact prefixAfterRoot_inquired hcalls hrest
  | remembered =>
    intro earlier call later hsplit hmakes
    exact absurd hmakes (hrest call (by simp [show rest = _ from hsplit]))

/-- Inquiries of a search that do not ask for a prefix make no difference to those after them. -/
theorem PrefixAfterRoot.append {h : Host} {first rest : List Command.Call} (hrest : PrefixAfterRoot h rest)
    (hfirst : ∀ call ∈ first, ¬Inquiry.npmPrefix.makes call) : PrefixAfterRoot h (first ++ rest) := by
  intro earlier call later hsplit hmakes
  rcases List.append_eq_append_iff.1 hsplit with ⟨between, rfl, hlater⟩ | ⟨between, rfl, hlater⟩
  · obtain ⟨earlier', root, rfl, hroot, hsays⟩ := hrest _ _ _ hlater hmakes
    exact ⟨first ++ earlier', root, by simp, hroot, hsays⟩
  · cases between with
    | nil =>
      obtain ⟨earlier', root, hempty, -⟩ := hrest [] call later hlater.symm hmakes
      simp at hempty
    | cons call' between =>
      obtain ⟨rfl, -⟩ := List.cons.inj hlater
      exact absurd hmakes (hfirst call (by simp))

theorem prefixAfterRoot_starts (h : Starts s looked calls) (hnew : looked.Nodup) :
    PrefixAfterRoot s.host calls := by
  induction h with
  | nil =>
    intro earlier call later hsplit
    simp at hsplit
  | @cons source rest calls calls' hconsults hrest ih =>
    obtain ⟨hsource, hnew⟩ := List.nodup_cons.1 hnew
    by_cases hnpm : source = .npm
    · subst hnpm
      exact prefixAfterRoot_consults hconsults (not_makes_of_starts hrest hsource)
    · refine (ih hnew).append fun call hcall hmakes => ?_
      obtain ⟨i, hi, hcall⟩ := inquiry_of_consults hconsults hcall
      rw [← (Inquiry.makes_iff hcall).1 hmakes] at hi
      exact hnpm hi.symm

end Library

/-! ## Histories -/

namespace Turn

/-- A call has asked which global directory a source has. -/
def LooksIn (turn : Turn (libraryCalls settings)) (source : Source) : Prop := .rootOf source ∈ turn.asked

end Turn

/-- The global directory of a source, as it was named when a call of a history first looked in the source. -/
inductive FirstRoot : List (Turn (libraryCalls settings)) → Source → Path → Prop
  | first {turn : Turn (libraryCalls settings)} {past : List (Turn (libraryCalls settings))} {source : Source}
      {root : Path} : (∀ earlier ∈ past, ¬earlier.LooksIn source) → turn.LooksIn source →
      GlobalRoot turn.before.host source root → FirstRoot (turn :: past) source root
  | later {turn : Turn (libraryCalls settings)} {past : List (Turn (libraryCalls settings))} {source : Source}
      {root : Path} : FirstRoot past source root → FirstRoot (turn :: past) source root

variable {past : List (Turn (libraryCalls settings))} {turn : Turn (libraryCalls settings)} {source : Source}
  {root : Path} {first now : State}

theorem FirstRoot.looked (h : FirstRoot past source root) : ∃ turn ∈ past, turn.LooksIn source := by
  induction h with
  | first _ hlooks => exact ⟨_, List.mem_cons_self .., hlooks⟩
  | later _ ih =>
    obtain ⟨turn, hturn, hlooks⟩ := ih
    exact ⟨turn, List.mem_cons_of_mem _ hturn, hlooks⟩

theorem firstRoot_of_looked (h : ∃ earlier ∈ past, earlier.LooksIn source) :
    FirstRoot (turn :: past) source root ↔ FirstRoot past source root := by
  refine ⟨fun hroot => ?_, .later⟩
  cases hroot with
  | later hroot => exact hroot
  | first hnot =>
    obtain ⟨earlier, hearlier, hlooks⟩ := h
    exact absurd hlooks (hnot earlier hearlier)

theorem firstRoot_of_first (hnot : ∀ earlier ∈ past, ¬earlier.LooksIn source) (hlooks : turn.LooksIn source) :
    FirstRoot (turn :: past) source root ↔ GlobalRoot turn.before.host source root := by
  refine ⟨fun hroot => ?_, .first hnot hlooks⟩
  cases hroot with
  | first _ _ hroot => exact hroot
  | later hroot =>
    obtain ⟨earlier, hearlier, hearlierLooks⟩ := hroot.looked
    exact absurd hearlierLooks (hnot earlier hearlier)

/-- What is remembered after a history: for each source that a call has looked in what the first of these was
told, and nothing of the other sources. No inquiry about a source has been made before it is known. -/
structure Remembers (past : List (Turn (libraryCalls settings))) (now : State) : Prop where
  known : ∀ source root, now.cache.rootOf source = some root →
    (∃ turn ∈ past, turn.LooksIn source) ∧ ∀ p, root = some p ↔ FirstRoot past source p
  unknown : ∀ source, now.cache.rootOf source = none → ∀ turn ∈ past, ¬turn.LooksIn source
  once : ∀ i : Inquiry, (past.flatMap Turn.calls).countP i.makes ≤ 1 ∧
    (0 < (past.flatMap Turn.calls).countP i.makes → (now.cache.rootOf i.source).isSome)

theorem remembers_start (hfresh : first.cache.roots = []) :
    Remembers ([] : List (Turn (libraryCalls settings))) first where
  known source root h := by
    rw [Cache.rootOf, hfresh] at h
    cases h
  unknown _ _ turn hturn := absurd hturn List.not_mem_nil
  once i := by simp

theorem Remembers.of_sameService {later : State} (h : Remembers past now) (hlater : now.SameService later) :
    Remembers past later := by
  obtain ⟨host, documents, rfl⟩ := hlater
  exact ⟨h.known, h.unknown, h.once⟩

/-- A call uses what is remembered, and keeps it. -/
theorem Remembers.next (h : Remembers past turn.before) : Remembers (turn :: past) turn.after := by
  obtain ⟨⟨looked, hlearns, hknown, hlooks, hlocated, hstarts⟩, -⟩ := turn.ends
  have hnew : looked.Nodup := hlocated.subset.sublist.nodup (by decide)
  refine ⟨fun source root hroot => ?_, fun source hnone => ?_, fun i => ?_⟩
  · cases hbefore : turn.before.cache.rootOf source with
    | some known =>
      obtain rfl : known = root := Option.some.inj ((hlearns.kept _ _ hbefore).symm.trans hroot)
      obtain ⟨hlooked, hfirst⟩ := h.known source known hbefore
      refine ⟨?_, fun p => (hfirst p).trans (firstRoot_of_looked hlooked).symm⟩
      obtain ⟨earlier, hearlier, hlooks⟩ := hlooked
      exact ⟨earlier, List.mem_cons_of_mem _ hearlier, hlooks⟩
    | none =>
      obtain ⟨hlooked, hnamed⟩ := hlearns.learned source root hroot hbefore
      have hnow : turn.LooksIn source := (hlooks source).2 hlooked
      exact ⟨⟨turn, List.mem_cons_self .., hnow⟩,
        fun p => (hnamed p).trans (firstRoot_of_first (h.unknown source hbefore) hnow).symm⟩
  · have hbefore : turn.before.cache.rootOf source = none := by
      cases hbefore : turn.before.cache.rootOf source with
      | none => rfl
      | some root => cases hnone.symm.trans (hlearns.kept source root hbefore)
    refine List.forall_mem_cons.2 ⟨fun hnow => ?_, h.unknown source hbefore⟩
    obtain ⟨hlooked, hne⟩ := (hlooks source).1 hnow
    have hsome := hknown source hlooked hne
    rw [hnone] at hsome
    cases hsome
  · obtain ⟨hone, hpast⟩ := h.once i
    obtain ⟨hone', hturn⟩ := countP_starts hstarts hnew i
    rw [List.flatMap_cons, List.countP_append]
    change turn.calls.countP i.makes ≤ 1 at hone'
    change 0 < turn.calls.countP i.makes → _ at hturn
    by_cases hpos : 0 < turn.calls.countP i.makes
    · obtain ⟨hlooked, hnone⟩ := hturn hpos
      have hzero : ¬0 < (past.flatMap Turn.calls).countP i.makes := fun hpos => by
        have hsome := hpast hpos
        rw [hnone] at hsome
        cases hsome
      exact ⟨by omega, fun _ => hknown i.source hlooked i.source_ne⟩
    · refine ⟨by omega, fun hcount => ?_⟩
      obtain ⟨root, hroot⟩ := Option.isSome_iff_exists.1 (hpast (by omega))
      rw [hlearns.kept _ _ hroot]
      rfl

/-- A call locates its library with the global directories as they were first named. -/
theorem Remembers.located (h : Remembers past turn.before) :
    ∃ looked, Located settings turn.before.host (FirstRoot (turn :: past)) turn.call.file Source.inOrder looked
      turn.located := by
  obtain ⟨⟨looked, -, -, hlooks, hlocated, -⟩, -⟩ := turn.ends
  refine ⟨looked, hlocated.congr (.refl _) fun source hlooked hne p => ?_⟩
  cases hroot : turn.before.cache.rootOf source with
  | some known =>
    obtain ⟨hknown, hfirst⟩ := h.known source known hroot
    rw [State.usesRoot_of_some hroot, hfirst, firstRoot_of_looked hknown]
  | none =>
    rw [State.usesRoot_of_none hroot, firstRoot_of_first (h.unknown source hroot) ((hlooks source).2 ⟨hlooked, hne⟩)]

/-! ## All calls of a history -/

/-- The calls of a history start child processes for global directories only when they need those and none of
them twice, and all use what was found first. -/
structure FindsOnce (turns : List (Turn (libraryCalls settings))) : Prop where
  /-- Every child process is one of an inquiry, by an executable that the host has at the time. -/
  inquiries : ∀ turn ∈ turns, ∀ call ∈ turn.calls, ∃ i : Inquiry, i.call? turn.before.host = some call
  once : ∀ i : Inquiry, (turns.flatMap Turn.calls).countP i.makes ≤ 1
  prefixAfterRoot : ∀ turn ∈ turns, PrefixAfterRoot turn.before.host turn.calls
  project : ∀ turn ∈ turns, ∀ p, turn.located = .ok (p, .project) → turn.calls = []
  npm : ∀ turn ∈ turns, ∀ p, turn.located = .ok (p, .npm) →
    ∀ call ∈ turn.calls, ¬Inquiry.yarnDirectory.makes call
  located : ∀ turn past, turn :: past <:+ turns → ∃ looked,
    Located settings turn.before.host (FirstRoot (turn :: past)) turn.call.file Source.inOrder looked turn.located
  comesTo : ∀ turn ∈ turns, turn.call.ComesTo turn.result turn.located

/-- A copy that is found in the project or by npm ends the search there. -/
theorem Library.Located.looked_eq {h : Host} {Root : Source → Path → Prop} {file p : Path} {looked : List Source}
    {source : Source} (hl : Located settings h Root file Source.inOrder looked (.ok (p, source))) :
    (source = .project → looked = [.project]) ∧ (source = .npm → looked = [.project, .npm]) := by
  cases hl with
  | found => simp
  | next _ hl =>
    cases hl with
    | found => simp
    | next _ hl =>
      cases hl with
      | found => simp
      | next _ hl => cases hl

/-- What one more call adds to a history. -/
theorem FindsOnce.next (h : FindsOnce past) (hremembers : Remembers past turn.before) :
    FindsOnce (turn :: past) := by
  obtain ⟨⟨looked, hend⟩, hcomesTo⟩ := turn.ends
  have hlocated := hend.located
  have hstarts : Starts turn.before looked turn.calls := hend.starts
  exact {
    inquiries := List.forall_mem_cons.2
      ⟨fun call hcall => (inquiry_of_starts hstarts hcall).imp fun _ hi => hi.2, h.inquiries⟩
    once := fun i => (hremembers.next.once i).1
    prefixAfterRoot := List.forall_mem_cons.2
      ⟨prefixAfterRoot_starts hstarts (hlocated.subset.sublist.nodup (by decide)), h.prefixAfterRoot⟩
    project := by
      refine List.forall_mem_cons.2 ⟨fun p hp => ?_, h.project⟩
      rw [hp] at hlocated
      rw [hlocated.looked_eq.1 rfl] at hstarts
      exact eq_nil_of_starts hstarts
    npm := by
      refine List.forall_mem_cons.2 ⟨fun p hp => ?_, h.npm⟩
      rw [hp] at hlocated
      rw [hlocated.looked_eq.2 rfl] at hstarts
      exact not_makes_of_starts hstarts (by simp [Inquiry.source])
    located := by
      intro turn' past' hsuffix
      rcases List.suffix_cons_iff.1 hsuffix with heq | hsuffix
      · cases heq
        exact hremembers.located
      · exact h.located turn' past' hsuffix
    comesTo := List.forall_mem_cons.2 ⟨hcomesTo, h.comesTo⟩ }

/-- Over every history of calls, with the host changing in any way between them, the global directories are
found lazily and once. -/
theorem history_finds_once {turns : List (Turn (libraryCalls settings))}
    (h : History (libraryCalls settings) first turns now) (hfresh : first.cache.roots = []) :
    FindsOnce turns := by
  suffices FindsOnce turns ∧ Remembers turns now from this.1
  induction h with
  | start =>
    refine ⟨?_, remembers_start hfresh⟩
    constructor <;> simp
  | next _ hbetween ih =>
    have hbefore := ih.2.of_sameService hbetween
    exact ⟨ih.1.next hbefore, hbefore.next⟩

/-! ## A directory that is named too late -/

/-- A host where yarn names a global directory with a copy of the library, and npm names none. -/
def yarnHost : Host where
  files := ⟨[(["g"], .directory), (["g", "node_modules"], .directory),
    (["g", "node_modules", "tslint"], .directory),
    (["g", "node_modules", "tslint", "package.json"], .file (some []) 1)], []⟩
  environment := []
  executables := [("npm", "/bin/npm"), ("yarn", "/bin/yarn")]
  replies call :=
    { outcome := match call.argv with
        | [_, "global", "dir"] => .exited 0 (some "/g\n") none
        | [_, "root", "-g"] => .exited 1 none none
        | _ => .exited 0 (some " \n") none }

/-- The host after npm has got a global directory with the library, and yarn has lost its copy. -/
def npmHost : Host :=
  { yarnHost with
    files := ⟨[(["r"], .directory), (["r", "tslint"], .directory),
      (["r", "tslint", "package.json"], .file (some []) 1)], []⟩
    replies := fun _ => { outcome := .exited 0 (some "/r\n") none } }

/-- Calls for one file, the latest first. The host changes after the first of them. -/
def lateCalls : List (LibraryCall × Host × DocumentTable) :=
  [(.resolve ⟨.root, ["a.ts"]⟩, npmHost, []), (.locate ⟨.root, ["a.ts"]⟩, npmHost, []),
    (.locate ⟨.root, ["a.ts"]⟩, yarnHost, [])]

/-- The turns of these calls, and the state after them. -/
def late : List (Turn (libraryCalls {})) × State := playOn (libraryCalls {}) yarnHost.fresh lateCalls

/-- All three inquiries are made in the first call, and what npm would say later is not asked for. -/
theorem history_finds_once_late :
    History (libraryCalls {}) yarnHost.fresh late.1 late.2 ∧ yarnHost.fresh.cache.roots = [] ∧
      FindsOnce late.1 ∧
      late.1.map (fun turn => turn.calls.map fun call => call.argv.drop 1) =
        [[], [], [["root", "-g"], ["config", "get", "prefix"], ["global", "dir"]]] ∧
      late.1.map (fun turn => turn.located.toOption) =
        [none, none, some (⟨.root, ["g", "node_modules", "tslint"]⟩, .yarn)] := by
  have hplayed : History (libraryCalls {}) yarnHost.fresh late.1 late.2 :=
    history_playOn (libraryCalls {}) _ lateCalls
  have hfresh : yarnHost.fresh.cache.roots = [] := rfl
  exact ⟨hplayed, hfresh, history_finds_once hplayed hfresh, by decide +kernel, by decide +kernel⟩

end LintBridge
