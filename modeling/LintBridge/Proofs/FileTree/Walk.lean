-- SUMMARY: A path that leads somewhere resolves to the place that it leads to.
import LintBridge.FileTree
import Mathlib.Data.List.Perm.Subperm

/-!
# Walks

A look-up splices the names of a link in front of the names that are left and counts the links; the
resolution of a path goes through a link on its own and remembers the links that it is in. Both agree on
every path that leads somewhere. `Leads` is what they have in common: where names lead to, with the
number of names that are passed on the way.
-/

namespace LintBridge.FileTree

variable {t : FileTree}

/-! ## Steps of a walk -/

section Steps

variable {follow : List String → List String → Except FileError (List String)}
  {here rest : List String} {name : String}

theorem walkNames_up (hdir : t.node? here = some .directory) (hup : name = "..") :
    t.walkNames follow here (name :: rest) = t.walkNames follow here.dropLast rest := by
  simp [walkNames, hdir, hup]

theorem walkNames_point (hdir : t.node? here = some .directory) (hup : name ≠ "..") (hpoint : name = ".") :
    t.walkNames follow here (name :: rest) = t.walkNames follow here rest := by
  subst hpoint
  simp [walkNames, hdir]

theorem walkNames_link (hdir : t.node? here = some .directory) (hup : name ≠ "..") (hpoint : name ≠ ".")
    {target : String} (hlink : t.node? (here ++ [name]) = some (.link target)) :
    t.walkNames follow here (name :: rest) =
      follow (linkStart here target) (linkNames target ++ rest) := by
  simp [walkNames, hdir, hup, hpoint, hlink]

theorem walkNames_down (hdir : t.node? here = some .directory) (hup : name ≠ "..") (hpoint : name ≠ ".")
    (hnot : ∀ target, t.node? (here ++ [name]) ≠ some (.link target)) :
    t.walkNames follow here (name :: rest) = t.walkNames follow (here ++ [name]) rest := by
  simp only [walkNames, hdir, hup, hpoint, if_false]

theorem walkNames_not_directory {node : Node} (hnode : t.node? here = some node)
    (hnot : node ≠ .directory) : t.walkNames follow here (name :: rest) = .error .notDirectory := by
  cases node with
  | directory => exact absurd rfl hnot
  | file _ _ => simp only [walkNames, hnode]
  | link _ => simp only [walkNames, hnode]

theorem walkNames_vacant (hnone : t.node? here = none) :
    t.walkNames follow here (name :: rest) = .error .missing := by
  simp only [walkNames, hnone]

end Steps

/-! ## Where names lead -/

/-- Names lead from a place to a place, passing `count` names. -/
inductive Leads (t : FileTree) : List String → List String → List String → Nat → Prop
  | stay (here : List String) : Leads t here [] here 0
  | up {here rest place : List String} {name : String} {n : Nat} :
      t.node? here = some .directory → name = ".." → Leads t here.dropLast rest place n →
      Leads t here (name :: rest) place (n + 1)
  | point {here rest place : List String} {name : String} {n : Nat} :
      t.node? here = some .directory → name ≠ ".." → name = "." → Leads t here rest place n →
      Leads t here (name :: rest) place (n + 1)
  | link {here rest there place : List String} {name target : String} {m n : Nat} :
      t.node? here = some .directory → name ≠ ".." → name ≠ "." →
      t.node? (here ++ [name]) = some (.link target) →
      Leads t (linkStart here target) (linkNames target) there m → Leads t there rest place n →
      Leads t here (name :: rest) place (m + n + 1)
  | down {here rest place : List String} {name : String} {n : Nat} :
      t.node? here = some .directory → name ≠ ".." → name ≠ "." →
      (∀ target, t.node? (here ++ [name]) ≠ some (.link target)) →
      Leads t (here ++ [name]) rest place n → Leads t here (name :: rest) place (n + 1)

/-- Names lead to one place, in one way. -/
theorem Leads.deterministic {here names place place' : List String} {n n' : Nat}
    (h : Leads t here names place n) (h' : Leads t here names place' n') : place = place' ∧ n = n' := by
  induction h generalizing place' n' with
  | stay here => cases h'; exact ⟨rfl, rfl⟩
  | up _ hup _ ih =>
    cases h' with
    | up _ _ h' => obtain ⟨rfl, rfl⟩ := ih h'; exact ⟨rfl, rfl⟩
    | point _ hup' => exact absurd hup hup'
    | link _ hup' => exact absurd hup hup'
    | down _ hup' => exact absurd hup hup'
  | point _ hup hpoint _ ih =>
    cases h' with
    | up _ hup' => exact absurd hup' hup
    | point _ _ _ h' => obtain ⟨rfl, rfl⟩ := ih h'; exact ⟨rfl, rfl⟩
    | link _ _ hpoint' => exact absurd hpoint hpoint'
    | down _ _ hpoint' => exact absurd hpoint hpoint'
  | link _ hup hpoint hlink _ _ ihThrough ih =>
    cases h' with
    | up _ hup' => exact absurd hup' hup
    | point _ _ hpoint' => exact absurd hpoint' hpoint
    | link _ _ _ hlink' hthrough h' =>
      cases hlink.symm.trans hlink'
      obtain ⟨rfl, rfl⟩ := ihThrough hthrough
      obtain ⟨rfl, rfl⟩ := ih h'
      exact ⟨rfl, rfl⟩
    | down _ _ _ hnot => exact absurd hlink (hnot _)
  | down _ hup hpoint hnot _ ih =>
    cases h' with
    | up _ hup' => exact absurd hup' hup
    | point _ _ hpoint' => exact absurd hpoint' hpoint
    | link _ _ _ hlink => exact absurd hlink (hnot _)
    | down _ _ _ _ h' => obtain ⟨rfl, rfl⟩ := ih h'; exact ⟨rfl, rfl⟩

/-- Names lead where their beginning and then the others lead. -/
theorem Leads.split {here front back place : List String} {n : Nat}
    (h : Leads t here (front ++ back) place n) :
    ∃ there m k, Leads t here front there m ∧ Leads t there back place k := by
  induction front generalizing here n with
  | nil => exact ⟨here, 0, n, .stay here, h⟩
  | cons name front ih =>
    cases h with
    | up hdir hup hrest =>
      obtain ⟨there, _, _, hfront, hback⟩ := ih hrest
      exact ⟨there, _, _, .up hdir hup hfront, hback⟩
    | point hdir hup hpoint hrest =>
      obtain ⟨there, _, _, hfront, hback⟩ := ih hrest
      exact ⟨there, _, _, .point hdir hup hpoint hfront, hback⟩
    | link hdir hup hpoint hlink hthrough hrest =>
      obtain ⟨there, _, _, hfront, hback⟩ := ih hrest
      exact ⟨there, _, _, .link hdir hup hpoint hlink hthrough hfront, hback⟩
    | down hdir hup hpoint hnot hrest =>
      obtain ⟨there, _, _, hfront, hback⟩ := ih hrest
      exact ⟨there, _, _, .down hdir hup hpoint hnot hfront, hback⟩

theorem leads_of_walkNames {follow : List String → List String → Except FileError (List String)}
    (hfollow : ∀ here names place, follow here names = .ok place → ∃ n, Leads t here names place n)
    {here names place : List String} (h : t.walkNames follow here names = .ok place) :
    ∃ n, Leads t here names place n := by
  fun_induction walkNames t follow here names with
  | case1 here => cases h; exact ⟨0, .stay _⟩
  | case2 here rest hdir ih =>
    obtain ⟨n, hrest⟩ := ih h
    exact ⟨n + 1, .up hdir rfl hrest⟩
  | case3 here rest hdir hup ih =>
    obtain ⟨n, hrest⟩ := ih h
    exact ⟨n + 1, .point hdir hup rfl hrest⟩
  | case4 here name rest hdir hup hpoint target hlink =>
    obtain ⟨n, hall⟩ := hfollow _ _ _ h
    obtain ⟨there, m, k, hthrough, hrest⟩ := hall.split
    exact ⟨m + k + 1, .link hdir hup hpoint hlink hthrough hrest⟩
  | case5 here name rest hdir hup hpoint hnot ih =>
    obtain ⟨n, hrest⟩ := ih h
    exact ⟨n + 1, .down hdir hup hpoint hnot hrest⟩
  | case6 => cases h
  | case7 => cases h

/-- A walk ends where its names lead. -/
theorem leads_of_walk {hops : Nat} {here names place : List String}
    (h : t.walk hops here names = .ok place) : ∃ n, Leads t here names place n := by
  induction hops generalizing here names place with
  | zero => exact leads_of_walkNames (fun _ _ _ h => by cases h) h
  | succ hops ih => exact leads_of_walkNames (fun _ _ _ => ih) h

/-! ## Resolution -/

/-- The names of a link's path are those it leads along, without single points. -/
theorem names_ofString (target : String) :
    (Path.ofString target).names = (linkNames target).filter (· ≠ ".") := by
  have hpoint (part : List Char) : (decide (String.ofList part ≠ ".")) = decide (part ≠ ['.']) := by
    rw [decide_eq_decide, ne_eq, ne_eq, ← String.toList_inj, String.toList_ofList]
    rfl
  simp only [Path.ofString, Path.ofChars, Path.namesIn, linkNames, List.filter_map, List.filter_filter,
    Function.comp_def, hpoint, Bool.and_comm]

/-- A link that leads somewhere, on the way passing as many names as given or more. -/
def Entered (t : FileTree) (n : Nat) (link : List String) : Prop :=
  ∃ target there m, t.node? link = some (.link target) ∧
    Leads t (linkStart link.dropLast target) (linkNames target) there m ∧ n ≤ m

theorem Entered.mono {m n : Nat} {link : List String} (h : Entered t n link) (hmn : m ≤ n) :
    Entered t m link := by
  obtain ⟨target, there, k, hlink, hleads, hn⟩ := h
  exact ⟨target, there, k, hlink, hleads, Nat.le_trans hmn hn⟩

/-- There are no more links entered at once than nodes. -/
theorem length_le_of_entered {n : Nat} {links : List (List String)} (hnodup : links.Nodup)
    (h : ∀ link ∈ links, Entered t n link) : links.length ≤ t.nodes.length := by
  have hlisted : links ⊆ t.nodes.map (·.1) := by
    intro link hmem
    obtain ⟨target, -, -, hlink, -⟩ := h link hmem
    unfold node? at hlink
    split at hlink
    · cases hlink
    · exact List.mem_map_of_mem (Table.mem_of_find? hlink)
  simpa using (List.subperm_of_subset hnodup hlisted).length_le

/-- Names that lead to a place resolve to it. A link is not met again inside itself, since from there
it would have to lead on in fewer names than it does. -/
theorem resolveNames_of_leads {depth : Nat} {unfinished : List (List String)}
    {here names place : List String} {n : Nat} (h : Leads t here names place n)
    (hentered : ∀ link ∈ unfinished, Entered t n link) (hnodup : unfinished.Nodup)
    (hdepth : t.nodes.length ≤ depth + unfinished.length) :
    t.resolveNames (t.resolveFrom depth) unfinished here (names.filter (· ≠ ".")) = (place, true) := by
  induction h generalizing depth unfinished with
  | stay here => simp [resolveNames]
  | up hdir hup _ ih =>
    subst hup
    have hentered := fun link hmem => (hentered link hmem).mono (Nat.le_succ _)
    rw [List.filter_cons_of_pos (by decide), resolveNames, if_pos rfl]
    exact ih hentered hnodup hdepth
  | point hdir hup hpoint _ ih =>
    subst hpoint
    have hentered := fun link hmem => (hentered link hmem).mono (Nat.le_succ _)
    rw [List.filter_cons_of_neg (by decide)]
    exact ih hentered hnodup hdepth
  | @link here rest there place name target m n hdir hup hpoint hlink hthrough hrest ihThrough ih =>
    have hfresh : here ++ [name] ∉ unfinished := by
      intro hmem
      obtain ⟨target', there', k, hlink', hleads, hk⟩ := hentered _ hmem
      cases hlink.symm.trans hlink'
      rw [List.dropLast_concat] at hleads
      obtain ⟨-, rfl⟩ := hthrough.deterministic hleads
      omega
    have hinside : ∀ link ∈ (here ++ [name]) :: unfinished, Entered t m link := by
      rw [List.forall_mem_cons]
      refine ⟨⟨target, there, m, hlink, ?_, Nat.le_refl _⟩, fun link hmem => ?_⟩
      · rwa [List.dropLast_concat]
      · exact (hentered link hmem).mono (by omega)
    have hnodup' := List.nodup_cons.2 ⟨hfresh, hnodup⟩
    have hcount := length_le_of_entered hnodup' hinside
    rw [List.length_cons] at hcount
    obtain ⟨depth, rfl⟩ : ∃ d, depth = d + 1 := ⟨depth - 1, by omega⟩
    have hthere : t.resolveFrom (depth + 1) ((here ++ [name]) :: unfinished) _ _ = _ :=
      ihThrough hinside hnodup' (by rw [List.length_cons]; omega)
    have hrest := ih (fun link hmem => (hentered link hmem).mono (by omega)) hnodup hdepth
    have hfresh : unfinished.contains (here ++ [name]) = false := by simpa using hfresh
    rw [List.filter_cons_of_pos (by simpa using hpoint), resolveNames, if_neg hup]
    simp only [hlink, hfresh, names_ofString, hthere, hrest, if_true, Bool.false_eq_true, if_false]
  | down hdir hup hpoint hnot _ ih =>
    have hrest := ih (fun link hmem => (hentered link hmem).mono (Nat.le_succ _)) hnodup hdepth
    rw [List.filter_cons_of_pos (by simpa using hpoint), resolveNames, if_neg hup]
    dsimp only
    split
    next hlink => exact absurd hlink (hnot _)
    next => exact hrest

end LintBridge.FileTree
