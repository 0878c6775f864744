-- SUMMARY: Tables from keys to values, in the order in which the keys came.

/-!
# Tables

A table is a list of keys with their values, and each key is there once. A key that is put again keeps
its place and changes its value.
-/

namespace LintBridge.Table

variable {κ α : Type} [DecidableEq κ]

/-- The value of a key. -/
def find? : List (κ × α) → κ → Option α
  | [], _ => none
  | (k, a) :: rest, key => if k = key then some a else find? rest key

/-- The table with a value for a key, at the end if the key is new. -/
def put (key : κ) (value : α) : List (κ × α) → List (κ × α)
  | [] => [(key, value)]
  | (k, a) :: rest => if k = key then (k, value) :: rest else (k, a) :: put key value rest

/-- The table without a key. -/
def erase (key : κ) (table : List (κ × α)) : List (κ × α) := table.filter (·.1 ≠ key)

/-- The table that pairs write, a later pair over an earlier one of its key. -/
def ofPairs (pairs : List (κ × α)) : List (κ × α) :=
  pairs.foldl (fun table (key, value) => put key value table) []

theorem find?_put (table : List (κ × α)) (key key' : κ) (value : α) :
    find? (put key value table) key' = if key = key' then some value else find? table key' := by
  induction table with
  | nil => simp [put, find?]
  | cons entry rest ih =>
    obtain ⟨k, a⟩ := entry
    by_cases hk : k = key
    · subst hk; by_cases h : k = key' <;> simp [put, find?, h]
    · by_cases h : k = key'
      · subst h; simp [put, find?, hk, Ne.symm hk]
      · simp [put, find?, hk, h, ih]

theorem find?_put_self (table : List (κ × α)) (key : κ) (value : α) :
    find? (put key value table) key = some value := by
  simp [find?_put]

/-- A new key is put at the end. -/
theorem put_of_not_mem {table : List (κ × α)} {key : κ} (value : α) (h : key ∉ table.map Prod.fst) :
    put key value table = table ++ [(key, value)] := by
  induction table with
  | nil => rfl
  | cons entry rest ih =>
    rw [List.map_cons, List.mem_cons, not_or] at h
    rw [put, if_neg (Ne.symm h.1), ih h.2, List.cons_append]

/-- What is found for a key is listed for it. -/
theorem mem_of_find? {table : List (κ × α)} {key : κ} {value : α} (h : find? table key = some value) :
    (key, value) ∈ table := by
  induction table with
  | nil => cases h
  | cons entry rest ih =>
    obtain ⟨k, a⟩ := entry
    rw [find?] at h
    split at h
    next hk => cases h; subst hk; exact List.mem_cons_self ..
    next => exact List.mem_cons_of_mem _ (ih h)

/-- A table grows by one entry exactly when the key is new. -/
theorem length_put (table : List (κ × α)) (key : κ) (value : α) :
    (put key value table).length = table.length + if (find? table key).isSome then 0 else 1 := by
  induction table with
  | nil => simp [put, find?]
  | cons entry rest ih =>
    obtain ⟨k, a⟩ := entry
    by_cases hk : k = key
    · simp [put, find?, hk]
    · simp [put, find?, hk, ih]; omega

theorem find?_erase (table : List (κ × α)) (key key' : κ) :
    find? (erase key table) key' = if key = key' then none else find? table key' := by
  induction table with
  | nil => simp [erase, find?]
  | cons entry rest ih =>
    obtain ⟨k, a⟩ := entry
    simp only [erase] at ih
    by_cases hk : k = key
    · subst hk; by_cases h : k = key' <;> simp_all [erase, find?]
    · by_cases h : k = key'
      · subst h; simp [erase, find?, hk, Ne.symm hk]
      · simp_all [erase, find?]

/-! ## Pairs put one by one -/

section

variable {pairs before after : List (κ × α)} {key : κ} {value : α}

/-- Pairs of other keys leave the value of a key. -/
theorem find?_foldl_put_of_not_mem (table : List (κ × α)) (h : key ∉ pairs.map Prod.fst) :
    find? (pairs.foldl (fun table (key, value) => put key value table) table) key = find? table key := by
  induction pairs generalizing table with
  | nil => rfl
  | cons pair rest ih =>
    rw [List.map_cons, List.mem_cons, not_or] at h
    rw [List.foldl_cons, ih _ h.2, find?_put, if_neg (Ne.symm h.1)]

/-- The last pair of a key gives its value. -/
theorem find?_foldl_put_of_last (table : List (κ × α)) (h : key ∉ after.map Prod.fst) :
    find? ((before ++ (key, value) :: after).foldl (fun table (key, value) => put key value table) table) key =
      some value := by
  rw [List.foldl_append, List.foldl_cons, find?_foldl_put_of_not_mem _ h, find?_put_self]

/-- A key that some pair has is that of a last pair. -/
theorem exists_last (h : key ∈ pairs.map Prod.fst) :
    ∃ before value after, pairs = before ++ (key, value) :: after ∧ key ∉ after.map Prod.fst := by
  induction pairs with
  | nil => cases h
  | cons pair rest ih =>
    by_cases hrest : key ∈ rest.map Prod.fst
    · obtain ⟨before, value, after, rfl, hafter⟩ := ih hrest
      exact ⟨pair :: before, value, after, rfl, hafter⟩
    · obtain rfl : key = pair.1 := by simpa [hrest] using h
      exact ⟨[], pair.2, rest, rfl, hrest⟩

/-- Pairs with new and different keys are put at the end. -/
theorem foldl_put_of_nodup (table : List (κ × α)) (h : ((table ++ pairs).map Prod.fst).Nodup) :
    pairs.foldl (fun table (key, value) => put key value table) table = table ++ pairs := by
  induction pairs generalizing table with
  | nil => exact (List.append_nil table).symm
  | cons pair rest ih =>
    rw [List.append_cons] at h
    have hnew : pair.1 ∉ table.map Prod.fst := by
      rw [List.map_append, List.map_append, List.nodup_append, List.nodup_append] at h
      exact fun hmem => h.1.2.2 _ hmem _ (List.mem_singleton_self _) rfl
    calc
      (pair :: rest).foldl (fun table (key, value) => put key value table) table
      _ = rest.foldl (fun table (key, value) => put key value table) (table ++ [pair]) := by
        rw [List.foldl_cons, ← put_of_not_mem pair.2 hnew]
      _ = table ++ pair :: rest := by rw [ih _ h, ← List.append_cons]

/-- Pairs with different keys are the table that they write. -/
theorem ofPairs_eq_self (h : (pairs.map Prod.fst).Nodup) : ofPairs pairs = pairs := foldl_put_of_nodup [] h

/-- Of pairs with different keys, each one is found. -/
theorem find?_ofPairs_eq_some_iff (h : (pairs.map Prod.fst).Nodup) :
    find? (ofPairs pairs) key = some value ↔ (key, value) ∈ pairs := by
  have hfound {value : α} (hmem : (key, value) ∈ pairs) : find? (ofPairs pairs) key = some value := by
    obtain ⟨before, after, rfl⟩ := List.append_of_mem hmem
    rw [List.map_append, List.map_cons, List.nodup_append, List.nodup_cons] at h
    exact find?_foldl_put_of_last [] h.2.1.1
  refine ⟨fun hvalue => ?_, hfound⟩
  by_cases hkey : key ∈ pairs.map Prod.fst
  · obtain ⟨⟨key, other⟩, hmem, rfl⟩ := List.mem_map.1 hkey
    cases (hfound hmem).symm.trans hvalue
    exact hmem
  · rw [ofPairs, find?_foldl_put_of_not_mem [] hkey] at hvalue
    cases hvalue

end

end LintBridge.Table
