-- SUMMARY: The names that a path can hold, and the way from a path to its text and back.
import LintBridge.Path

/-!
# Paths and their texts

A text is read into names that are not empty, hold no slash, and are no single point. A path with such
names is the one that its text writes.
-/

namespace LintBridge.Path

open Text

/-- A name that a text can write. -/
structure IsName (name : String) : Prop where
  nonempty : name ≠ ""
  noPoint : name ≠ "."
  noSlash : '/' ∉ name.toList

/-- A path that a text can write. -/
def Proper (p : Path) : Prop := ∀ name ∈ p.names, IsName name

theorem isName_of_mem_namesIn {s : List Char} {name : String} (h : name ∈ namesIn s) : IsName name := by
  obtain ⟨part, hpart, rfl⟩ := List.mem_map.1 h
  obtain ⟨hpiece, hkept⟩ := List.mem_filter.1 hpart
  have hkept : part ≠ [] ∧ part ≠ ['.'] := by simpa using hkept
  refine ⟨fun hempty => hkept.1 ?_, fun hpoint => hkept.2 ?_, ?_⟩
  · simpa using congrArg String.toList hempty
  · simpa using congrArg String.toList hpoint
  · simpa using not_mem_pieces hpiece

/-- A text writes a proper path. -/
theorem proper_ofString (s : String) : (ofString s).Proper := fun _ => isName_of_mem_namesIn

theorem namesIn_cons_slash (s : List Char) : namesIn ('/' :: s) = namesIn s := by
  simp [namesIn, pieces, piecesFrom]

/-- The names of a path are those that they are joined to. -/
theorem namesIn_joinNames {names : List String} (h : ∀ name ∈ names, IsName name) :
    namesIn (joinNames names) = names := by
  by_cases hne : names = []
  · subst hne; decide
  have hslash : ∀ part ∈ names.map String.toList, '/' ∉ part := by
    rw [List.forall_mem_map]
    intro name hname
    exact (h name hname).noSlash
  rw [namesIn, joinNames, pieces_joinPieces (by simpa using hne) hslash, List.filter_map, List.map_map]
  have hkept : names.filter ((fun part => decide (part ≠ []) && decide (part ≠ ['.'])) ∘ String.toList) =
      names := by
    refine List.filter_eq_self.2 fun name hname => ?_
    have hnonempty : name.toList ≠ [] := by simpa using (h name hname).nonempty
    have hpoint : name.toList ≠ ['.'] := fun e => (h name hname).noPoint (String.toList_inj.1 e)
    simp [hnonempty, hpoint]
  rw [hkept]
  simp [Function.comp_def]

/-- Names joined by slashes do not begin with one. -/
theorem joinNames_head {names : List String} (h : ∀ name ∈ names, IsName name) (s : List Char) :
    joinNames names ≠ '/' :: s := by
  intro hslash
  cases names with
  | nil => cases hslash
  | cons name rest =>
    have hname := h name (List.mem_cons_self ..)
    obtain ⟨c, cs, hc⟩ := List.exists_cons_of_ne_nil (mt String.toList_eq_nil_iff.1 hname.nonempty)
    refine hname.noSlash ?_
    cases rest with
    | nil =>
      rw [joinNames, List.map_singleton, joinPieces, hc] at hslash
      rw [hc, (List.cons.inj hslash).1]
      exact List.mem_cons_self ..
    | cons next rest =>
      rw [joinNames, List.map_cons, joinPieces_cons (by simp), hc] at hslash
      rw [hc, (List.cons.inj hslash).1]
      exact List.mem_cons_self ..

theorem anchorOf_joinNames {names : List String} (h : ∀ name ∈ names, IsName name) :
    anchorOf (joinNames names) = .here ∧ anchorOf ('/' :: joinNames names) = .root ∧
      anchorOf ('/' :: '/' :: joinNames names) = .doubleRoot := by
  have hhead := joinNames_head h
  generalize joinNames names = s at hhead
  unfold anchorOf
  grind

/-- A proper path is the one that its text writes. -/
theorem ofChars_toChars {p : Path} (h : p.Proper) : ofChars p.toChars = p := by
  obtain ⟨anchor, names⟩ := p
  obtain ⟨hhere, hroot, hdouble⟩ := anchorOf_joinNames h
  have hnames := namesIn_joinNames h
  cases anchor with
  | here =>
    cases names with
    | nil => rfl
    | cons name rest => simp only [ofChars, toChars, hhere, hnames]
  | root => simp only [ofChars, toChars, hroot, namesIn_cons_slash, hnames]
  | doubleRoot => simp only [ofChars, toChars, hdouble, namesIn_cons_slash, hnames]

/-- The text of a proper path is that of no other. -/
theorem text_inj {p q : Path} (hp : p.Proper) (hq : q.Proper) : p.text = q.text ↔ p = q := by
  refine ⟨fun h => ?_, congrArg text⟩
  have hchars : p.toChars = q.toChars := String.ofList_injective h
  rw [← ofChars_toChars hp, ← ofChars_toChars hq, hchars]

end LintBridge.Path
