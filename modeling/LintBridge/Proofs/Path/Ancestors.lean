-- SUMMARY: The chain of directories above a path, and how far the walk up from a path follows it.
import LintBridge.Path
import Mathlib.Data.List.Nodup

/-!
# Ancestors

From a path the way up leads from parent to parent, to the first path that is its own parent. On this way
names only get fewer, so no directory is met twice. The walk up goes this way until it has met as many
directories as it may.
-/

namespace LintBridge.Path

/-- A path, its parent, the parent of that, and so on up to the first path that is its own parent. -/
def chain (p : Path) : List Path :=
  if _ : p.parent = p then [p] else p :: chain p.parent
termination_by p.names.length
decreasing_by exact parent_names_lt ‹_›

/-- The first of some paths, as many as a limit allows. -/
def upTo (limit : Option Int) (paths : List Path) : List Path :=
  match limit with
  | none => paths
  | some n => paths.take n.toNat

/-! ## The walk -/

/-- A walk that has met some directories meets one more if the limit allows it. -/
theorem upTo_cons (limit : Option Int) (count : Nat) (p : Path) (rest : List Path) :
    upTo (limit.map (· - count)) (p :: rest) =
      if withinLimit limit count then p :: upTo (limit.map (· - (count + 1 : Nat))) rest else [] := by
  cases limit with
  | none => rfl
  | some n =>
    simp only [upTo, Option.map_some, withinLimit, decide_eq_true_eq]
    split
    next hwithin =>
      have hleft : (n - count).toNat = (n - (count + 1 : Nat)).toNat + 1 := by omega
      rw [hleft, List.take_succ_cons]
    next hbeyond =>
      have hleft : (n - count).toNat = 0 := by omega
      rw [hleft, List.take_zero]

/-- After directories that have more names, the walk up goes on along the chain as far as the limit allows. -/
theorem ascend_eq (limit : Option Int) {visited : List Path} {p : Path}
    (h : ∀ q ∈ visited, p.names.length < q.names.length) :
    ascend limit visited p = upTo (limit.map (· - visited.length)) p.chain := by
  have hnew : visited.contains p = false := by
    rw [List.contains_eq_mem, decide_eq_false_iff_not]
    exact fun hp => Nat.lt_irrefl _ (h p hp)
  fun_induction chain p generalizing visited with
  | case1 p htop =>
    rw [ascend, hnew, dif_pos htop, upTo_cons]
    cases limit <;> simp [upTo]
  | case2 p hnot ih =>
    have hshorter : ∀ q ∈ p :: visited, p.parent.names.length < q.names.length := by
      rw [List.forall_mem_cons]
      exact ⟨parent_names_lt hnot, fun q hq => Nat.lt_trans (parent_names_lt hnot) (h q hq)⟩
    have hrest := ih hshorter (by simpa using fun hp => Nat.lt_irrefl _ (hshorter p.parent hp))
    rw [ascend, hnew, dif_neg hnot, upTo_cons, hrest, List.length_cons, Bool.not_false, Bool.and_true]

/-- The walk up from a path meets the first directories of the chain. -/
theorem ancestors_eq_upTo (limit : Option Int) (p : Path) : p.ancestors limit = upTo limit p.chain := by
  rw [ancestors, ascend_eq limit (by simp)]
  cases limit <;> simp

theorem ancestors_eq (limit : Int) (p : Path) : p.ancestors (some limit) = p.chain.take limit.toNat :=
  ancestors_eq_upTo (some limit) p

/-! ## The chain -/

/-- The way up from a path: each directory is followed by its parent, and the first that is its own parent by
nothing. -/
inductive Climbs : Path → List Path → Prop
  | top {p : Path} : p.parent = p → Climbs p [p]
  | up {p : Path} {rest : List Path} : p.parent ≠ p → Climbs p.parent rest → Climbs p (p :: rest)

theorem climbs_iff {p : Path} {way : List Path} : Climbs p way ↔ way = p.chain := by
  fun_induction chain p generalizing way with
  | case1 p htop =>
    constructor
    · intro h
      cases h with
      | top => rfl
      | up hnot => exact absurd htop hnot
    · rintro rfl
      exact .top htop
  | case2 p hnot ih =>
    constructor
    · intro h
      cases h with
      | top htop => exact absurd htop hnot
      | up _ hrest => rw [ih.1 hrest]
    · rintro rfl
      exact .up hnot (ih.2 rfl)

/-- Directories further up have no more names. -/
theorem Climbs.names_length_le {p : Path} {way : List Path} (h : Climbs p way) :
    ∀ q ∈ way, q.names.length ≤ p.names.length := by
  induction h with
  | top => simp
  | up hnot _ ih =>
    rw [List.forall_mem_cons]
    exact ⟨Nat.le_refl _, fun q hq => Nat.le_of_lt (Nat.lt_of_le_of_lt (ih q hq) (parent_names_lt hnot))⟩

/-- No directory is met twice. -/
theorem Climbs.nodup {p : Path} {way : List Path} (h : Climbs p way) : way.Nodup := by
  induction h with
  | top => exact List.nodup_singleton _
  | up hnot hrest ih =>
    refine List.nodup_cons.2 ⟨fun hmem => ?_, ih⟩
    exact Nat.not_le.2 (parent_names_lt hnot) (hrest.names_length_le _ hmem)

theorem names_of_parent_eq {p : Path} (h : p.parent = p) : p.names = [] := by
  cases hnames : p.names with
  | nil => rfl
  | cons name names =>
    have hlast : p.names.dropLast = p.names := congrArg Path.names h
    have hlength := congrArg List.length hlast
    rw [List.length_dropLast, hnames, List.length_cons] at hlength
    omega

/-- The way up ends at a root, or at the working directory. -/
theorem Climbs.top_text {p : Path} {way : List Path} (h : Climbs p way) :
    ∃ top, way.getLast? = some top ∧ top.parent = top ∧ (top.text = "/" ∨ top.text = "//" ∨ top.text = ".") := by
  induction h with
  | @top p htop =>
    refine ⟨p, rfl, htop, ?_⟩
    obtain ⟨anchor, names⟩ := p
    cases names_of_parent_eq htop
    cases anchor with
    | here => exact .inr (.inr rfl)
    | root => exact .inl rfl
    | doubleRoot => exact .inr (.inl rfl)
  | up _ hrest ih =>
    obtain ⟨top, htop, hrest⟩ := ih
    exact ⟨top, by rw [List.getLast?_cons, htop]; rfl, hrest⟩

/-! ## The first directory of a kind -/

/-- The first of some paths that is of a kind. -/
def IsFirst (P : Path → Prop) (paths : List Path) (p : Path) : Prop :=
  ∃ nearer farther, paths = nearer ++ p :: farther ∧ P p ∧ ∀ q ∈ nearer, ¬P q

variable {P : Path → Prop} {p q : Path} {paths : List Path}

theorem not_isFirst_nil : ¬IsFirst P [] p := by
  rintro ⟨nearer, farther, h, -⟩
  simp at h

theorem isFirst_cons : IsFirst P (q :: paths) p ↔ P q ∧ q = p ∨ ¬P q ∧ IsFirst P paths p := by
  constructor
  · rintro ⟨nearer, farther, hsplit, hp, hnearer⟩
    cases nearer with
    | nil =>
      cases hsplit
      exact .inl ⟨hp, rfl⟩
    | cons first nearer =>
      cases hsplit
      rw [List.forall_mem_cons] at hnearer
      exact .inr ⟨hnearer.1, nearer, farther, rfl, hp, hnearer.2⟩
  · rintro (⟨hp, rfl⟩ | ⟨hnot, nearer, farther, rfl, hp, hnearer⟩)
    · exact ⟨[], paths, rfl, hp, by simp⟩
    · exact ⟨q :: nearer, farther, rfl, hp, List.forall_mem_cons.2 ⟨hnot, hnearer⟩⟩

/-- There is at most one first directory of a kind. -/
theorem IsFirst.unique (hp : IsFirst P paths p) (hq : IsFirst P paths q) : p = q := by
  induction paths with
  | nil => exact absurd hp not_isFirst_nil
  | cons first rest ih =>
    rcases isFirst_cons.1 hp with ⟨hfirst, rfl⟩ | ⟨hnot, hp⟩
    · rcases isFirst_cons.1 hq with ⟨-, h⟩ | ⟨hnot, -⟩
      · exact h
      · exact absurd hfirst hnot
    · rcases isFirst_cons.1 hq with ⟨hfirst, -⟩ | ⟨-, hq⟩
      · exact absurd hfirst hnot
      · exact ih hp hq

theorem IsFirst.mem (h : IsFirst P paths p) : p ∈ paths := by
  obtain ⟨nearer, farther, rfl, -⟩ := h
  simp

theorem IsFirst.holds (h : IsFirst P paths p) : P p := by
  obtain ⟨-, -, -, hp, -⟩ := h
  exact hp

end LintBridge.Path
