-- SUMMARY: What look-ups depend on, and what marking and writing a file changes.
import LintBridge.Host
import LintBridge.Proofs.FileTree.Place
import LintBridge.Proofs.Result
import LintBridge.Text.Utf8

/-!
# Contents of trees

Two trees have the same contents when they differ at most in how often files have changed. Paths lead to
the same places in both, and files read the same. Marking a file keeps the contents of a tree, and
writing one changes what stands at one place.
-/

namespace LintBridge

/-- What stands at a place, without the count of its changes. -/
def Node.unmarked : Node → Node
  | .file content _ => .file content 0
  | node => node

/-- What stands at a place, whatever is in it if it is a file. -/
def Node.shape : Node → Node
  | .file _ _ => .file none 0
  | node => node

namespace FileTree

variable {t t' t'' : FileTree} {place : List String}

/-! ## Trees of the same shape -/

/-- The same directories, links and files are in two trees. Files may differ in their contents. -/
structure SameShape (t t' : FileTree) : Prop where
  workingDirectory : t.workingDirectory = t'.workingDirectory
  nodes : ∀ place, (t.node? place).map Node.shape = (t'.node? place).map Node.shape

theorem SameShape.refl (t : FileTree) : SameShape t t := ⟨rfl, fun _ => rfl⟩

theorem SameShape.symm (h : SameShape t t') : SameShape t' t :=
  ⟨h.workingDirectory.symm, fun place => (h.nodes place).symm⟩

theorem SameShape.trans (h : SameShape t t') (h' : SameShape t' t'') : SameShape t t'' :=
  ⟨h.workingDirectory.trans h'.workingDirectory, fun place => (h.nodes place).trans (h'.nodes place)⟩

theorem SameShape.node (h : SameShape t t') {node : Node} (hnode : t.node? place = some node) :
    ∃ node', t'.node? place = some node' ∧ node'.shape = node.shape := by
  have hplace := h.nodes place
  rwa [hnode, eq_comm, Option.map_some, Option.map_eq_some_iff] at hplace

/-- A file stands where one stood. -/
theorem SameShape.file (h : SameShape t t') {content : Option Bytes} {count : Nat}
    (hnode : t.node? place = some (.file content count)) :
    ∃ content' count', t'.node? place = some (.file content' count') := by
  obtain ⟨node, hnode', heq⟩ := h.node hnode
  cases node with
  | file content' count' => exact ⟨content', count', hnode'⟩
  | _ => cases heq

theorem SameShape.directory (h : SameShape t t') (hnode : t.node? place = some .directory) :
    t'.node? place = some .directory := by
  obtain ⟨node, hnode', heq⟩ := h.node hnode
  cases node with
  | directory => exact hnode'
  | _ => cases heq

theorem SameShape.link (h : SameShape t t') {target : String} (hnode : t.node? place = some (.link target)) :
    t'.node? place = some (.link target) := by
  obtain ⟨node, hnode', heq⟩ := h.node hnode
  cases node with
  | link _ => cases heq; exact hnode'
  | _ => cases heq

theorem SameShape.vacant (h : SameShape t t') (hnode : t.node? place = none) : t'.node? place = none := by
  have hplace := h.nodes place
  rwa [hnode, eq_comm, Option.map_none, Option.map_eq_none_iff] at hplace

theorem SameShape.walkNames (h : SameShape t t')
    {follow follow' : List String → List String → Except FileError (List String)}
    (hfollow : ∀ here names, follow here names = follow' here names) (here names : List String) :
    t.walkNames follow here names = t'.walkNames follow' here names := by
  fun_induction FileTree.walkNames t follow here names with
  | case1 here => rw [FileTree.walkNames]
  | case2 here rest hdir ih => rw [walkNames_up (h.directory hdir) rfl, ih]
  | case3 here rest hdir hup ih => rw [walkNames_point (h.directory hdir) hup rfl, ih]
  | case4 here name rest hdir hup hpoint target hlink =>
    rw [walkNames_link (h.directory hdir) hup hpoint (h.link hlink), hfollow]
  | case5 here name rest hdir hup hpoint hnot ih =>
    rw [walkNames_down (h.directory hdir) hup hpoint fun target hlink => hnot target (h.symm.link hlink), ih]
  | case6 here name rest node hnot hnode =>
    cases node with
    | directory => exact (hnot rfl).elim
    | file content count =>
      obtain ⟨content', count', hnode'⟩ := h.file hnode
      rw [walkNames_not_directory hnode' (by simp)]
    | link target => rw [walkNames_not_directory (h.link hnode) (by simp)]
  | case7 here name rest hnone => rw [walkNames_vacant (h.vacant hnone)]

/-- Walks end at the same places. -/
theorem SameShape.walk (h : SameShape t t') (hops : Nat) (here names : List String) :
    t.walk hops here names = t'.walk hops here names := by
  induction hops generalizing here names with
  | zero => exact h.walkNames (fun _ _ => rfl) here names
  | succ hops ih => exact h.walkNames ih here names

/-- Paths lead to the same places. -/
theorem SameShape.placeOf (h : SameShape t t') (p : Path) : t.placeOf p = t'.placeOf p := by
  unfold FileTree.placeOf origin
  rw [h.workingDirectory, h.walk]

/-! ## Trees with the same contents -/

/-- Everything but the counts of changes is the same in two trees. -/
structure SameContents (t t' : FileTree) : Prop where
  workingDirectory : t.workingDirectory = t'.workingDirectory
  nodes : ∀ place, (t.node? place).map Node.unmarked = (t'.node? place).map Node.unmarked

theorem SameContents.refl (t : FileTree) : SameContents t t := ⟨rfl, fun _ => rfl⟩

theorem SameContents.symm (h : SameContents t t') : SameContents t' t :=
  ⟨h.workingDirectory.symm, fun place => (h.nodes place).symm⟩

theorem SameContents.trans (h : SameContents t t') (h' : SameContents t' t'') : SameContents t t'' :=
  ⟨h.workingDirectory.trans h'.workingDirectory, fun place => (h.nodes place).trans (h'.nodes place)⟩

theorem SameContents.sameShape (h : SameContents t t') : SameShape t t' := by
  have hshape : Node.shape ∘ Node.unmarked = Node.shape := funext fun node => by cases node <;> rfl
  refine ⟨h.workingDirectory, fun place => ?_⟩
  simpa only [Option.map_map, hshape] using congrArg (Option.map Node.shape) (h.nodes place)

/-- A file stands where one stood, with the same content. -/
theorem SameContents.file (h : SameContents t t') {content : Option Bytes} {count : Nat}
    (hnode : t.node? place = some (.file content count)) :
    ∃ count', t'.node? place = some (.file content count') := by
  obtain ⟨content', count', hnode'⟩ := h.sameShape.file hnode
  have hplace := h.nodes place
  rw [hnode, hnode'] at hplace
  cases hplace
  exact ⟨count', hnode'⟩

/-- Paths lead to the same places. -/
theorem SameContents.placeOf (h : SameContents t t') (p : Path) : t.placeOf p = t'.placeOf p :=
  h.sameShape.placeOf p

/-! ## Reading -/

variable {p : Path} {content : Bytes} {count : Nat}

theorem lookup_eq_ok_iff {node : Node} :
    t.lookup p = .ok (place, node) ↔ t.placeOf p = .ok place ∧ t.node? place = some node := by
  unfold lookup
  cases t.placeOf p with
  | error e => simp [bind, Except.bind]
  | ok there =>
    cases hnode : t.node? there with
    | none => simp [bind, Except.bind, hnode, throw, throwThe, MonadExceptOf.throw]; grind
    | some node' => simp [bind, Except.bind, hnode, pure, Except.pure]; grind

theorem lookup_of_error {e : FileError} (h : t.placeOf p = .error e) : t.lookup p = .error e := by
  rw [lookup, h]
  rfl

theorem lookup_of_vacant (hplace : t.placeOf p = .ok place) (hnode : t.node? place = none) :
    t.lookup p = .error .missing := by
  simp only [lookup, hplace, bind, Except.bind, hnode]
  rfl

theorem read_eq_ok_iff :
    t.read p = .ok content ↔
      ∃ place count, t.placeOf p = .ok place ∧ t.node? place = some (.file (some content) count) := by
  simp only [← lookup_eq_ok_iff]
  unfold read
  split
  next place content' count h => simp [h]
  next h => simp [h]
  next node hfile hdenied h => simp [h]; grind
  next h => simp [h]

/-- Look-ups in trees whose nodes agree in some respect fail alike, or find nodes that agree in it. -/
theorem lookup_cases {f : Node → Node} (hplace : t.placeOf p = t'.placeOf p)
    (hnodes : ∀ place, (t.node? place).map f = (t'.node? place).map f) :
    (∃ e, t.lookup p = .error e ∧ t'.lookup p = .error e) ∨
      ∃ place node node', t.lookup p = .ok (place, node) ∧ t'.lookup p = .ok (place, node') ∧ f node = f node' := by
  cases hfound : t.placeOf p with
  | error e => exact .inl ⟨e, lookup_of_error hfound, lookup_of_error (hplace.symm.trans hfound)⟩
  | ok place =>
    have hfound' : t'.placeOf p = .ok place := hplace.symm.trans hfound
    have hagree := hnodes place
    cases hnode : t.node? place with
    | none =>
      rw [hnode, Option.map_none, eq_comm, Option.map_eq_none_iff] at hagree
      exact .inl ⟨.missing, lookup_of_vacant hfound hnode, lookup_of_vacant hfound' hagree⟩
    | some node =>
      rw [hnode, Option.map_some, eq_comm, Option.map_eq_some_iff] at hagree
      obtain ⟨node', hnode', heq⟩ := hagree
      exact .inr ⟨place, node, node', lookup_eq_ok_iff.2 ⟨hfound, hnode⟩,
        lookup_eq_ok_iff.2 ⟨hfound', hnode'⟩, heq.symm⟩

/-- Files read the same. -/
theorem SameContents.read_eq (h : SameContents t t') (p : Path) : t.read p = t'.read p := by
  unfold FileTree.read
  rcases lookup_cases (h.placeOf p) h.nodes with ⟨e, he, he'⟩ | ⟨place, node, node', hnode, hnode', heq⟩
  · rw [he, he']
  · rw [hnode, hnode']
    cases node with
    | directory => cases node' <;> first | rfl | cases heq
    | link target => cases node' <;> first | rfl | cases heq
    | file content count =>
      cases node' with
      | file content' count' =>
        cases heq
        cases content <;> rfl
      | _ => cases heq

theorem SameContents.read (h : SameContents t t') (hread : t.read p = .ok content) :
    t'.read p = .ok content :=
  (h.read_eq p).symm.trans hread

theorem modified_of_file {content : Option Bytes} (hplace : t.placeOf p = .ok place)
    (hnode : t.node? place = some (.file content count)) : t.modified p = .ok count := by
  rw [modified, lookup_eq_ok_iff.2 ⟨hplace, hnode⟩]

/-- The text of a file that can be read as UTF-8, and how often the file has changed. -/
def textOf? (t : FileTree) (p : Path) : Option (List Char × Nat) :=
  match t.read p, t.modified p with
  | .ok content, .ok count => (Text.Utf8.decode? content).map (·, count)
  | _, _ => none

theorem textOf?_eq_some_iff {text : List Char} :
    t.textOf? p = some (text, count) ↔ ∃ place content, t.placeOf p = .ok place ∧
      t.node? place = some (.file (some content) count) ∧ Text.Utf8.decode? content = some text := by
  constructor
  · intro h
    unfold textOf? at h
    split at h
    next content count' hread hmodified =>
      obtain ⟨place, count'', hplace, hnode⟩ := read_eq_ok_iff.1 hread
      rw [modified_of_file hplace hnode, Except.ok.injEq] at hmodified
      obtain ⟨text', htext, heq⟩ := Option.map_eq_some_iff.1 h
      cases heq
      exact ⟨place, content, hplace, hmodified ▸ hnode, htext⟩
    next => cases h
  · rintro ⟨place, content, hplace, hnode, htext⟩
    have hread := read_eq_ok_iff.2 ⟨place, count, hplace, hnode⟩
    simp [textOf?, hread, modified_of_file hplace hnode, htext]

theorem walkNames_ne_nulCharacter {follow : List String → List String → Except FileError (List String)}
    (hfollow : ∀ here names, follow here names ≠ .error .nulCharacter) (here names : List String) :
    t.walkNames follow here names ≠ .error .nulCharacter := by
  fun_induction walkNames t follow here names with
  | case1 =>
    intro h
    cases h
  | case2 _ _ _ ih => exact ih
  | case3 _ _ _ _ ih => exact ih
  | case4 => exact hfollow _ _
  | case5 _ _ _ _ _ _ _ ih => exact ih
  | case6 =>
    intro h
    cases h
  | case7 =>
    intro h
    cases h

theorem walk_ne_nulCharacter (hops : Nat) (here names : List String) :
    t.walk hops here names ≠ .error .nulCharacter := by
  induction hops generalizing here names with
  | zero =>
    rw [walk]
    exact walkNames_ne_nulCharacter (by simp) here names
  | succ hops ih => exact walkNames_ne_nulCharacter ih here names

/-- Only a path that holds a NUL character is refused for one. -/
theorem read_eq_nulCharacter_iff : t.read p = .error .nulCharacter ↔ hasNul p = true := by
  constructor
  · intro h
    refine Decidable.by_contra fun hnul => ?_
    have hplace : t.placeOf p = t.walk maxHops (t.origin p) p.names := if_neg hnul
    have hwalk := walk_ne_nulCharacter (t := t) maxHops (t.origin p) p.names
    rw [← hplace] at hwalk
    cases hfound : t.placeOf p with
    | error e =>
      rw [read, lookup_of_error hfound] at h
      cases h
      exact hwalk hfound
    | ok place =>
      cases hnode : t.node? place with
      | none =>
        rw [read, lookup_of_vacant hfound hnode] at h
        cases h
      | some node =>
        rw [read, lookup_eq_ok_iff.2 ⟨hfound, hnode⟩] at h
        cases node with
        | directory => cases h
        | link target => cases h
        | file content count =>
          cases content with
          | none => cases h
          | some content => cases h
  · intro h
    have hplace : t.placeOf p = .error .nulCharacter := if_pos h
    rw [read, lookup_of_error hplace]

/-- A path that leads to a file holds no NUL character. -/
theorem hasNul_of_isFile (h : t.isFile p) : hasNul p = false := by
  cases hnul : hasNul p with
  | false => rfl
  | true =>
    have hplace : t.placeOf p = .error .nulCharacter := if_pos hnul
    rw [isFile, lookup_of_error hplace] at h
    cases h

/-! ## Changes -/

theorem node?_set {place' : List String} {node : Node} (h : place ≠ []) :
    (t.set place node).node? place' = if place = place' then some node else t.node? place' := by
  by_cases heq : place' = []
  · rw [heq, if_neg h]; rfl
  · simp [node?, set, heq, Table.find?_put]

theorem ne_nil_of_file {content : Option Bytes} (h : t.node? place = some (.file content count)) :
    place ≠ [] := by
  rintro rfl
  cases h

/-- Trees with the same contents have them after the same change. -/
theorem SameContents.set (h : SameContents t t') (hne : place ≠ []) {node node' : Node}
    (hnode : node.unmarked = node'.unmarked) : SameContents (t.set place node) (t'.set place node') := by
  refine ⟨h.workingDirectory, fun place' => ?_⟩
  rw [node?_set hne, node?_set hne]
  split
  next => rw [Option.map_some, Option.map_some, hnode]
  next => exact h.nodes place'

/-- A file can be changed without moving its place. -/
theorem Stands.set_file {old : Option Bytes} (h : Stands t place)
    (hnode : t.node? place = some (.file old count)) (content : Option Bytes) (count' : Nat) :
    Stands (t.set place (.file content count')) place where
  names := h.names
  above place' habove hne := by
    rw [node?_set (ne_nil_of_file hnode), if_neg (Ne.symm hne)]
    exact h.above place' habove hne
  noLink target := by
    rw [node?_set (ne_nil_of_file hnode), if_pos rfl]
    intro hlink
    cases hlink

/-- Marking a file as changed keeps the contents. -/
theorem sameContents_touch (t : FileTree) (p : Path) : SameContents t (t.touch p) := by
  unfold touch
  split
  next place content count h =>
    obtain ⟨-, hnode⟩ := lookup_eq_ok_iff.1 h
    refine ⟨rfl, fun place' => ?_⟩
    rw [node?_set (ne_nil_of_file hnode)]
    split
    next heq => rw [← heq, hnode]; rfl
    next => rfl
  next => exact .refl t

/-- Writing a file puts the content at the place that the path leads to. -/
theorem write_of_file {old : Bytes} (content : Bytes) (hplace : t.placeOf p = .ok place)
    (hnode : t.node? place = some (.file (some old) count)) :
    t.write p content = .ok (t.set place (.file (some content) (count + 1))) := by
  simp [write, hplace, hnode, bind, Except.bind, pure, Except.pure]

/-- A file can be written at a place: one stands there that can be opened, or nothing does. -/
def Writable (t : FileTree) (place : List String) : Prop :=
  t.node? place = none ∨ ∃ content count, t.node? place = some (.file (some content) count)

theorem write_of_error {e : FileError} (content : Bytes) (h : t.placeOf p = .error e) :
    t.write p content = .error e := by
  rw [write, h]
  rfl

end FileTree

namespace Host

open FileTree

variable {h : Host} {p : Path} {place : List String} {count : Nat}

/-- What the files hold after a content has been written into the file that a path leads to. -/
inductive Writes (h : Host) (p : Path) (content : Bytes) : Except WriteFault Unit → FileTree → Prop
  | whole {place : List String} {count : Nat} : h.files.placeOf p = .ok place → h.files.Writable place →
      Writes h p content (.ok ()) (h.files.set place (.file (some content) count))
  /-- The file has not been opened. -/
  | unopened {fault : WriteFault} : Writes h p content (.error fault) h.files
  /-- The beginning of the content has been written. -/
  | cut {fault : WriteFault} {place : List String} {count written : Nat} : fault.written = some written →
      h.files.placeOf p = .ok place → h.files.Writable place →
      Writes h p content (.error fault) (h.files.set place (.file (some (content.take written)) count))

theorem write_of_file {old : Bytes} {content : Bytes} (hfault : h.writeFaults p content = none)
    (hplace : h.files.placeOf p = .ok place) (hnode : h.files.node? place = some (.file (some old) count)) :
    h.write p content = (.ok (), { h with files := h.files.set place (.file (some content) (count + 1)) }) := by
  simp only [write, hfault, FileTree.write_of_file content hplace hnode]

/-- Nothing is written where a path does not lead anywhere. -/
theorem write_of_error {e : FileError} (content : Bytes) (hplace : h.files.placeOf p = .error e) :
    ∃ fault, h.write p content = (.error fault, h) := by
  have hwrite (content : Bytes) : h.files.write p content = .error e := FileTree.write_of_error content hplace
  unfold write
  split
  next fault _ =>
    refine ⟨fault, ?_⟩
    unfold filesAfterFault
    split
    next => rfl
    next => rw [hwrite]; rfl
  next => rw [hwrite]; exact ⟨_, rfl⟩

end Host

end LintBridge
