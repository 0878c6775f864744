-- SUMMARY: Trees whose files have been changed since, and what the counts of changes tell about that.
import LintBridge.Proofs.FileTree.Content

/-!
# Later trees

When nothing happens to a tree but that files in it are changed, and each change raises the count of its
file, then a file with the same count has the same content. Reading the content and asking for the count are
two look-ups, and so say this only of the tree that both of them have seen.
-/

namespace LintBridge.FileTree

variable {t t' t'' : FileTree} {place : List String} {p : Path}

/-- A tree after files in it have been changed. -/
structure Later (t t' : FileTree) : Prop where
  sameShape : SameShape t t'
  files : ∀ {place content count content' count'}, t.node? place = some (.file content count) →
    t'.node? place = some (.file content' count') →
      count ≤ count' ∧ (count = count' → content = content')

theorem Later.refl (t : FileTree) : Later t t where
  sameShape := .refl t
  files hnode hnode' := by
    cases hnode.symm.trans hnode'
    exact ⟨Nat.le_refl _, fun _ => rfl⟩

theorem Later.trans (h : Later t t') (h' : Later t' t'') : Later t t'' where
  sameShape := h.sameShape.trans h'.sameShape
  files hnode hnode'' := by
    obtain ⟨content, count, hnode'⟩ := h.sameShape.file hnode
    obtain ⟨hle, hsame⟩ := h.files hnode hnode'
    obtain ⟨hle', hsame'⟩ := h'.files hnode' hnode''
    refine ⟨Nat.le_trans hle hle', fun heq => ?_⟩
    -- the count in between cannot be another one
    have hmiddle : _ = count := Nat.le_antisymm hle (heq ▸ hle')
    exact (hsame hmiddle).trans (hsame' (hmiddle.symm.trans heq))

/-- A file has been changed. -/
theorem later_set {old content : Option Bytes} {count count' : Nat}
    (hnode : t.node? place = some (.file old count)) (hraised : count < count') :
    Later t (t.set place (.file content count')) where
  sameShape := by
    refine ⟨rfl, fun place' => ?_⟩
    rw [node?_set (ne_nil_of_file hnode)]
    split
    next heq => rw [← heq, hnode]; rfl
    next => rfl
  files {place' _ _ _ _} hfile hfile' := by
    rw [node?_set (ne_nil_of_file hnode)] at hfile'
    split at hfile'
    next heq =>
      subst heq
      cases hfile'
      cases hnode.symm.trans hfile
      exact ⟨Nat.le_of_lt hraised, fun heq => absurd heq (Nat.ne_of_lt hraised)⟩
    next =>
      cases hfile.symm.trans hfile'
      exact ⟨Nat.le_refl _, fun _ => rfl⟩

theorem later_touch (t : FileTree) (p : Path) : Later t (t.touch p) := by
  unfold touch
  split
  next place content count h => exact later_set (lookup_eq_ok_iff.1 h).2 (Nat.lt_succ_self count)
  next => exact .refl t

/-! ## The file of a path -/

/-- A path leads to a file with a content, if it can be opened, and a count of changes. -/
def FileAt (t : FileTree) (p : Path) (content : Option Bytes) (count : Nat) : Prop :=
  ∃ place, t.placeOf p = .ok place ∧ t.node? place = some (.file content count)

theorem read_eq_ok_iff_fileAt {content : Bytes} :
    t.read p = .ok content ↔ ∃ count, t.FileAt p (some content) count := by
  rw [read_eq_ok_iff, exists_comm]
  rfl

theorem FileAt.modified {content : Option Bytes} {count : Nat} (h : t.FileAt p content count) :
    t.modified p = .ok count := by
  obtain ⟨place, hplace, hnode⟩ := h
  exact modified_of_file hplace hnode

theorem FileAt.read {content : Bytes} {count : Nat} (h : t.FileAt p (some content) count) :
    t.read p = .ok content := read_eq_ok_iff_fileAt.2 ⟨count, h⟩

theorem FileAt.content_eq {content content' : Option Bytes} {count count' : Nat}
    (h : t.FileAt p content count) (h' : t.FileAt p content' count') : content = content' := by
  obtain ⟨place, hplace, hnode⟩ := h
  obtain ⟨place', hplace', hnode'⟩ := h'
  cases hplace.symm.trans hplace'
  cases hnode.symm.trans hnode'
  rfl

/-- The path leads to that file later too, which has another count if it has another content. -/
theorem Later.fileAt (h : Later t t') {content : Option Bytes} {count : Nat} (hfile : t.FileAt p content count) :
    ∃ content' count', t'.FileAt p content' count' ∧ count ≤ count' ∧
      (count = count' → content = content') := by
  obtain ⟨place, hplace, hnode⟩ := hfile
  obtain ⟨content', count', hnode'⟩ := h.sameShape.file hnode
  have hplace' : t'.placeOf p = .ok place := (h.sameShape.placeOf p).symm.trans hplace
  exact ⟨content', count', ⟨place, hplace', hnode'⟩, h.files hnode hnode'⟩

end LintBridge.FileTree
