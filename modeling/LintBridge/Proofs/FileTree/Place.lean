-- SUMMARY: The places that paths lead to, and the resolved form of the paths that lead to them.
import LintBridge.Proofs.FileTree.Walk
import LintBridge.Proofs.Path
import LintBridge.Proofs.Result

/-!
# Places

A place that a path leads to is reached from the root through directories, without links and double
points. So the place, as a path from the root, leads to itself, and the path resolves to it.
-/

namespace LintBridge.FileTree

open LintBridge.Path (IsName)

variable {t : FileTree} {place : List String}

/-! ## Places below the root -/

/-- A place is reached from the root through directories, and is not a link itself. -/
structure Stands (t : FileTree) (place : List String) : Prop where
  names : ∀ name ∈ place, IsName name ∧ name ≠ ".."
  above : ∀ place', place' <+: place → place' ≠ place → t.node? place' = some .directory
  noLink : ∀ target, t.node? place ≠ some (.link target)

/-- A directory that is a place can be passed. -/
theorem Stands.of_directory {place : List String} (hnames : ∀ name ∈ place, IsName name ∧ name ≠ "..")
    (h : ∀ place', place' <+: place → t.node? place' = some .directory) : Stands t place where
  names := hnames
  above place' habove _ := h place' habove
  noLink target := by
    rw [h place List.prefix_rfl]
    intro hlink
    cases hlink

theorem stands_root : Stands t [] := by
  refine .of_directory (by simp) fun place' habove => ?_
  rw [List.prefix_nil.1 habove, node?, if_pos rfl]

/-- Everything above a directory that is a place, and the directory itself, is a directory. -/
theorem Stands.directories (h : Stands t place) (hdir : t.node? place = some .directory)
    {place' : List String} (habove : place' <+: place) : t.node? place' = some .directory := by
  by_cases heq : place' = place
  · rwa [heq]
  · exact h.above place' habove heq

theorem Stands.dropLast (h : Stands t place) (hdir : t.node? place = some .directory) :
    Stands t place.dropLast :=
  .of_directory (fun name hname => h.names name ((List.dropLast_prefix place).subset hname))
    fun _ habove => h.directories hdir (habove.trans (List.dropLast_prefix place))

theorem Stands.child (h : Stands t place) (hdir : t.node? place = some .directory) {name : String}
    (hname : IsName name) (hup : name ≠ "..")
    (hnot : ∀ target, t.node? (place ++ [name]) ≠ some (.link target)) :
    Stands t (place ++ [name]) where
  names := by
    intro name' hmem
    rcases List.mem_append.1 hmem with hmem | hmem
    · exact h.names name' hmem
    · obtain rfl := List.mem_singleton.1 hmem
      exact ⟨hname, hup⟩
  above place' habove hne := by
    rcases List.prefix_concat_iff.1 habove with heq | habove
    · exact absurd heq hne
    · exact h.directories hdir habove
  noLink := hnot

/-- The names that a link leads along are not empty and hold no slash. -/
theorem mem_linkNames {target name : String} (h : name ∈ linkNames target) :
    name ≠ "" ∧ '/' ∉ name.toList := by
  obtain ⟨part, hpart, rfl⟩ := List.mem_map.1 h
  obtain ⟨hpiece, hkept⟩ := List.mem_filter.1 hpart
  have hkept : part ≠ [] := by simpa using hkept
  refine ⟨fun hempty => hkept ?_, ?_⟩
  · simpa using congrArg String.toList hempty
  · simpa using Text.not_mem_pieces hpiece

theorem Stands.linkStart (h : Stands t place) (target : String) :
    Stands t (FileTree.linkStart place target) := by
  unfold FileTree.linkStart
  split
  next => exact stands_root
  next => exact h

/-- Names lead from a place to a place. -/
theorem Stands.of_leads {here names : List String} {n : Nat} (h : Leads t here names place n)
    (hhere : Stands t here) (hnames : ∀ name ∈ names, name ≠ "" ∧ '/' ∉ name.toList) : Stands t place := by
  induction h with
  | stay here => exact hhere
  | up hdir _ _ ih => exact ih (hhere.dropLast hdir) (List.forall_mem_cons.1 hnames).2
  | point _ _ _ _ ih => exact ih hhere (List.forall_mem_cons.1 hnames).2
  | link _ _ _ _ _ _ ihThrough ih =>
    exact ih (ihThrough (hhere.linkStart _) fun _ => mem_linkNames) (List.forall_mem_cons.1 hnames).2
  | down hdir hup hpoint hnot _ ih =>
    obtain ⟨⟨hempty, hslash⟩, hrest⟩ := List.forall_mem_cons.1 hnames
    exact ih (hhere.child hdir ⟨hempty, hpoint, hslash⟩ hup hnot) hrest

theorem Stands.walkNames (h : Stands t place)
    (follow : List String → List String → Except FileError (List String)) :
    t.walkNames follow [] place = .ok place := by
  suffices ∀ rest here, here ++ rest = place → t.walkNames follow here rest = .ok place from
    this place [] rfl
  intro rest
  induction rest with
  | nil =>
    intro here hplace
    rw [List.append_nil] at hplace
    rw [FileTree.walkNames, hplace]
  | cons name rest ih =>
    intro here hplace
    have hdir := h.above here ⟨name :: rest, hplace⟩ fun heq => by simp [heq] at hplace
    obtain ⟨hname, hup⟩ := h.names name (by simp [← hplace])
    have hnext : (here ++ [name]) ++ rest = place := by simpa using hplace
    have hnot (target : String) : t.node? (here ++ [name]) ≠ some (.link target) := by
      by_cases hlast : here ++ [name] = place
      · rw [hlast]; exact h.noLink target
      · rw [h.above _ ⟨rest, hnext⟩ hlast]
        intro hlink
        cases hlink
    rw [walkNames_down hdir hup hname.noPoint hnot]
    exact ih (here ++ [name]) hnext

/-- A place leads to itself. -/
theorem Stands.walk (h : Stands t place) (hops : Nat) : t.walk hops [] place = .ok place := by
  cases hops with
  | zero => exact h.walkNames _
  | succ hops => exact h.walkNames _

/-! ## Paths that lead to places -/

/-- The working directory is a directory that some path from the root leads to, as the system sees to
for every program that runs. -/
def HasWorkingDirectory (t : FileTree) : Prop :=
  ∃ word : String, (Path.ofString word).isAbsolute ∧
    t.lookup (Path.ofString word) = .ok (t.workingDirectory, .directory)

theorem placeOf_eq_ok_iff {p : Path} :
    t.placeOf p = .ok place ↔ hasNul p = false ∧ t.walk maxHops (t.origin p) p.names = .ok place := by
  unfold placeOf
  split
  next h => simp [h]
  next h => simp [h]

theorem Proper.names_ne {p : Path} (h : p.Proper) : ∀ name ∈ p.names, name ≠ "" ∧ '/' ∉ name.toList :=
  fun name hname => ⟨(h name hname).nonempty, (h name hname).noSlash⟩

theorem stands_workingDirectory (ht : t.HasWorkingDirectory) : Stands t t.workingDirectory := by
  obtain ⟨word, habs, hlookup⟩ := ht
  obtain ⟨place, hplace, hnode⟩ := bind_eq_ok_iff.1 hlookup
  obtain ⟨-, hwalk⟩ := placeOf_eq_ok_iff.1 hplace
  obtain ⟨n, hleads⟩ := leads_of_walk hwalk
  rw [origin, if_pos habs] at hleads
  have hstands := Stands.of_leads hleads stands_root (Proper.names_ne (Path.proper_ofString word))
  split at hnode
  · cases hnode; exact hstands
  · cases hnode

theorem stands_origin (ht : t.HasWorkingDirectory) (p : Path) : Stands t (t.origin p) := by
  unfold origin
  split
  next => exact stands_root
  next => exact stands_workingDirectory ht

/-- A path leads to a place. -/
theorem stands_of_placeOf (ht : t.HasWorkingDirectory) {p : Path} (hp : p.Proper)
    (h : t.placeOf p = .ok place) : Stands t place := by
  obtain ⟨n, hleads⟩ := leads_of_walk (placeOf_eq_ok_iff.1 h).2
  exact .of_leads hleads (stands_origin ht p) (Proper.names_ne hp)

theorem foldl_collapse {names : List String} (h : ∀ name ∈ names, name ≠ "..") (done : List String) :
    names.foldl (fun done name => if name = ".." then done.drop 1 else name :: done) done =
      names.reverse ++ done := by
  induction names generalizing done with
  | nil => rfl
  | cons name rest ih =>
    rw [List.forall_mem_cons] at h
    rw [List.foldl_cons, if_neg h.1, ih h.2]
    simp

/-- A path that leads to a place resolves to it. -/
theorem realPath_of_placeOf (ht : t.HasWorkingDirectory) {p : Path} (hp : p.Proper)
    (h : t.placeOf p = .ok place) : t.realPath p = ⟨.root, place⟩ := by
  have hstands := stands_of_placeOf ht hp h
  obtain ⟨n, hleads⟩ := leads_of_walk (placeOf_eq_ok_iff.1 h).2
  have hresolve : t.resolveFrom (t.nodes.length + 1) [] _ _ = _ :=
    resolveNames_of_leads hleads (by simp) List.nodup_nil (Nat.le_refl _)
  have hnames : p.names.filter (· ≠ ".") = p.names :=
    List.filter_eq_self.2 fun name hname => by simpa using (hp name hname).noPoint
  rw [hnames] at hresolve
  rw [realPath, hresolve, collapse, foldl_collapse fun name hname => (hstands.names name hname).2]
  simp

/-- The resolved form of a path that leads to a place leads to the same place. -/
theorem placeOf_realPath (ht : t.HasWorkingDirectory) {p : Path} (hp : p.Proper)
    (h : t.placeOf p = .ok place) (hnul : hasNul (t.realPath p) = false) :
    t.placeOf (t.realPath p) = .ok place := by
  rw [realPath_of_placeOf ht hp h] at hnul ⊢
  exact placeOf_eq_ok_iff.2 ⟨hnul, (stands_of_placeOf ht hp h).walk maxHops⟩

/-! ## Resolved paths -/

section

variable {P : String → Prop}
  (hlink : ∀ place target, t.node? place = some (.link target) → ∀ name ∈ (Path.ofString target).names, P name)

theorem forall_linkStart {here : List String} (h : ∀ name ∈ here, P name) (target : String) :
    ∀ name ∈ linkStart here target, P name := by
  unfold linkStart
  split
  next => simp
  next => exact h

include hlink in
theorem forall_resolveNames
    {enter : List (List String) → List String → List String → List String × Bool}
    (henter : ∀ unfinished here names, (∀ name ∈ here, P name) → (∀ name ∈ names, P name) →
      ∀ name ∈ (enter unfinished here names).1, P name)
    (unfinished : List (List String)) (here names : List String)
    (hhere : ∀ name ∈ here, P name) (hnames : ∀ name ∈ names, P name) :
    ∀ name ∈ (t.resolveNames enter unfinished here names).1, P name := by
  have hnext {here rest : List String} {last : String} (hhere : ∀ name ∈ here, P name)
      (hnames : ∀ name ∈ last :: rest, P name) : ∀ name ∈ here ++ [last], P name :=
    List.forall_mem_append.2 ⟨hhere, by simpa using (List.forall_mem_cons.1 hnames).1⟩
  fun_induction resolveNames t enter unfinished here names with
  | case1 => exact hhere
  | case2 here rest ih =>
    exact ih (fun name hname => hhere name ((List.dropLast_prefix here).subset hname))
      (List.forall_mem_cons.1 hnames).2
  | case3 => exact List.forall_mem_append.2 ⟨hnext hhere hnames, (List.forall_mem_cons.1 hnames).2⟩
  | case4 here name rest hup next target htarget hfresh there hthere ih =>
    have hinside := henter (next :: unfinished) _ _ (forall_linkStart hhere target)
      (hlink next target htarget)
    rw [hthere] at hinside
    exact ih hinside (List.forall_mem_cons.1 hnames).2
  | case5 here name rest hup next target htarget hfresh there complete hthere hincomplete =>
    have hinside := henter (next :: unfinished) _ _ (forall_linkStart hhere target)
      (hlink next target htarget)
    rw [hthere] at hinside
    exact List.forall_mem_append.2 ⟨hinside, (List.forall_mem_cons.1 hnames).2⟩
  | case6 here name rest hup next hnot ih => exact ih (hnext hhere hnames) (List.forall_mem_cons.1 hnames).2

include hlink in
/-- Resolution goes along the names of the path, of where it begins, and of links. -/
theorem forall_resolveFrom (depth : Nat) (unfinished : List (List String)) (here names : List String)
    (hhere : ∀ name ∈ here, P name) (hnames : ∀ name ∈ names, P name) :
    ∀ name ∈ (t.resolveFrom depth unfinished here names).1, P name := by
  induction depth generalizing unfinished here names with
  | zero =>
    exact forall_resolveNames hlink (fun _ _ _ hhere hnames => List.forall_mem_append.2 ⟨hhere, hnames⟩)
      unfinished here names hhere hnames
  | succ depth ih => exact forall_resolveNames hlink ih unfinished here names hhere hnames

end

theorem mem_foldl_collapse {names done : List String} {name : String}
    (h : name ∈ names.foldl (fun done name => if name = ".." then done.drop 1 else name :: done) done) :
    name ∈ names ∨ name ∈ done := by
  induction names generalizing done with
  | nil => exact .inr h
  | cons first rest ih =>
    rw [List.foldl_cons] at h
    rcases ih h with h | h
    · exact .inl (List.mem_cons_of_mem _ h)
    · split at h
      · exact .inr (List.mem_of_mem_drop h)
      · rcases List.mem_cons.1 h with rfl | h
        · exact .inl (List.mem_cons_self ..)
        · exact .inr h

/-- Collapsing adds no names. -/
theorem mem_collapse {names : List String} {name : String} (h : name ∈ collapse names) : name ∈ names := by
  have hdone := mem_foldl_collapse (List.mem_reverse.1 h)
  simpa using hdone

/-- What holds of the names that resolution goes along holds of those of the resolved form. -/
theorem forall_realPath {P : String → Prop} (hlink : ∀ place target,
    t.node? place = some (.link target) → ∀ name ∈ (Path.ofString target).names, P name) {p : Path}
    (horigin : ∀ name ∈ t.origin p, P name) (hp : ∀ name ∈ p.names, P name) :
    ∀ name ∈ (t.realPath p).names, P name :=
  fun name hname => forall_resolveFrom hlink _ _ _ _ horigin hp name (mem_collapse hname)

/-- The resolved form of a path is one that a text can write. -/
theorem proper_realPath (ht : t.HasWorkingDirectory) {p : Path} (hp : p.Proper) : (t.realPath p).Proper :=
  forall_realPath (fun _ target _ => Path.proper_ofString target)
    (fun name hname => ((stands_origin ht p).names name hname).1) hp

/-! ## NUL characters -/

/-- No link and no name of the working directory holds a NUL character, as the system sees to. -/
structure NulFree (t : FileTree) : Prop where
  links : ∀ place target, t.node? place = some (.link target) → '\x00' ∉ target.toList
  workingDirectory : ∀ name ∈ t.workingDirectory, '\x00' ∉ name.toList

theorem hasNul_eq_false_iff {p : Path} : hasNul p = false ↔ ∀ name ∈ p.names, '\x00' ∉ name.toList := by
  simp [hasNul]

theorem not_mem_ofString_names {text : String} {c : Char} (h : c ∉ text.toList) :
    ∀ name ∈ (Path.ofString text).names, c ∉ name.toList := by
  intro name hname hc
  obtain ⟨part, hpart, rfl⟩ := List.mem_map.1 hname
  rw [String.toList_ofList] at hc
  have hjoined := Text.mem_joinPieces '/' (List.mem_filter.1 hpart).1 hc
  rw [Text.joinPieces_pieces] at hjoined
  exact h hjoined

/-- The resolved form of a path holds a NUL character only if the path does. -/
theorem NulFree.hasNul_realPath (ht : t.NulFree) {p : Path} (hp : hasNul p = false) :
    hasNul (t.realPath p) = false := by
  rw [hasNul_eq_false_iff] at hp ⊢
  refine forall_realPath (fun place target hlink => not_mem_ofString_names (ht.links place target hlink)) ?_ hp
  unfold origin
  split
  next => simp
  next => exact ht.workingDirectory

theorem realPath_of_resolve {p found : Path} (h : t.resolve p = .ok found) : t.realPath p = found := by
  simp only [resolve] at h
  split at h
  next => cases h
  next =>
    split at h
    next => cases h
    next => cases h; rfl

end LintBridge.FileTree
