-- SUMMARY: The pieces of a text between occurrences of a character.

/-!
# Pieces

A text is cut at every occurrence of a character. The pieces joined by that character are the text
again, and a text without it is its own only piece.
-/

namespace LintBridge.Text

/-- The pieces of the rest of a text; `piece` holds the current one in reverse. -/
def piecesFrom (sep : Char) (piece : List Char) : List Char → List (List Char)
  | [] => [piece.reverse]
  | c :: rest =>
    if c = sep then piece.reverse :: piecesFrom sep [] rest else piecesFrom sep (c :: piece) rest

/-- The pieces of a text. -/
def pieces (sep : Char) (s : List Char) : List (List Char) := piecesFrom sep [] s

/-- Pieces with a character between them. -/
def joinPieces (sep : Char) : List (List Char) → List Char
  | [] => []
  | [piece] => piece
  | piece :: rest => piece ++ sep :: joinPieces sep rest

theorem piecesFrom_ne_nil (sep : Char) (piece s : List Char) : piecesFrom sep piece s ≠ [] := by
  fun_induction piecesFrom sep piece s <;> simp_all

theorem joinPieces_cons {sep : Char} {piece : List Char} {rest : List (List Char)} (h : rest ≠ []) :
    joinPieces sep (piece :: rest) = piece ++ sep :: joinPieces sep rest := by
  cases rest with
  | nil => exact absurd rfl h
  | cons _ _ => rfl

/-- What a piece holds is in what the pieces are joined to. -/
theorem mem_joinPieces (sep : Char) {parts : List (List Char)} {part : List Char} {c : Char}
    (hpart : part ∈ parts) (hc : c ∈ part) : c ∈ joinPieces sep parts := by
  induction parts with
  | nil => cases hpart
  | cons first rest ih =>
    cases rest with
    | nil => rwa [List.mem_singleton.1 hpart] at hc
    | cons next rest =>
      rw [joinPieces_cons (List.cons_ne_nil _ _), List.mem_append]
      rcases List.mem_cons.1 hpart with rfl | hpart
      · exact .inl hc
      · exact .inr (List.mem_cons_of_mem _ (ih hpart))

/-- Joined pieces are the first one and each other with the character before it. -/
theorem joinPieces_eq_flatMap (sep : Char) (first : List Char) (rest : List (List Char)) :
    joinPieces sep (first :: rest) = first ++ rest.flatMap (sep :: ·) := by
  induction rest generalizing first with
  | nil => simp [joinPieces]
  | cons next rest ih => rw [joinPieces_cons (List.cons_ne_nil _ _), ih, List.flatMap_cons, List.cons_append]

theorem eq_or_mem_of_mem_joinPieces {sep c : Char} {parts : List (List Char)} (h : c ∈ joinPieces sep parts) :
    c = sep ∨ ∃ part ∈ parts, c ∈ part := by
  cases parts with
  | nil => cases h
  | cons first rest =>
    rw [joinPieces_eq_flatMap, List.mem_append, List.mem_flatMap] at h
    rcases h with hfirst | ⟨part, hpart, hc⟩
    · exact .inr ⟨first, List.mem_cons_self, hfirst⟩
    · rcases List.mem_cons.1 hc with rfl | hc
      · exact .inl rfl
      · exact .inr ⟨part, List.mem_cons_of_mem _ hpart, hc⟩

theorem map_joinPieces (f : Char → Char) (sep : Char) (parts : List (List Char)) :
    (joinPieces sep parts).map f = joinPieces (f sep) (parts.map (List.map f)) := by
  cases parts with
  | nil => rfl
  | cons first rest =>
    rw [List.map_cons, joinPieces_eq_flatMap, joinPieces_eq_flatMap, List.map_append]
    simp [List.map_flatMap, List.flatMap_map]

theorem joinPieces_piecesFrom (sep : Char) (piece s : List Char) :
    joinPieces sep (piecesFrom sep piece s) = piece.reverse ++ s := by
  fun_induction piecesFrom sep piece s with
  | case1 => simp [joinPieces]
  | case2 piece rest ih => simp [joinPieces_cons (piecesFrom_ne_nil _ _ _), ih]
  | case3 piece c rest h ih => simp [ih]

/-- Nothing is lost by cutting. -/
theorem joinPieces_pieces (sep : Char) (s : List Char) : joinPieces sep (pieces sep s) = s := by
  simp [pieces, joinPieces_piecesFrom]

theorem not_mem_piecesFrom {sep : Char} {piece s : List Char} (h : sep ∉ piece) :
    ∀ part ∈ piecesFrom sep piece s, sep ∉ part := by
  fun_induction piecesFrom sep piece s with
  | case1 => simpa using h
  | case2 piece rest ih => simpa [h] using ih
  | case3 piece c rest hc ih => exact ih (by simp [h, Ne.symm hc])

/-- No piece holds the character at which the text is cut. -/
theorem not_mem_pieces {sep : Char} {s part : List Char} (h : part ∈ pieces sep s) : sep ∉ part :=
  not_mem_piecesFrom List.not_mem_nil part h

theorem piecesFrom_of_not_mem {sep : Char} {s : List Char} (h : sep ∉ s) (piece : List Char) :
    piecesFrom sep piece s = [piece.reverse ++ s] := by
  induction s generalizing piece with
  | nil => simp [piecesFrom]
  | cons c rest ih =>
    rw [List.mem_cons, not_or] at h
    simp [piecesFrom, Ne.symm h.1, ih h.2]

theorem piecesFrom_append_sep {sep : Char} {s : List Char} (h : sep ∉ s) (piece rest : List Char) :
    piecesFrom sep piece (s ++ sep :: rest) = (piece.reverse ++ s) :: pieces sep rest := by
  induction s generalizing piece with
  | nil => simp [piecesFrom, pieces]
  | cons c s ih =>
    rw [List.mem_cons, not_or] at h
    simp [piecesFrom, Ne.symm h.1, ih h.2]

/-- Pieces without the character between them are the pieces of what they are joined to. -/
theorem pieces_joinPieces {sep : Char} {parts : List (List Char)} (hne : parts ≠ [])
    (h : ∀ part ∈ parts, sep ∉ part) : pieces sep (joinPieces sep parts) = parts := by
  induction parts with
  | nil => exact absurd rfl hne
  | cons part rest ih =>
    rw [List.forall_mem_cons] at h
    cases rest with
    | nil => simp [joinPieces, pieces, piecesFrom_of_not_mem h.1]
    | cons next rest =>
      rw [joinPieces_cons (List.cons_ne_nil _ _), pieces, piecesFrom_append_sep h.1,
        ih (List.cons_ne_nil _ _) h.2]
      rfl

end LintBridge.Text
