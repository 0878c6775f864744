-- SUMMARY: What stays of a host while nothing happens to it but that files are marked as changed.
import LintBridge.Proofs.Routine.RunOn

/-!
# Marked hosts

A program that writes no file changes nothing of its host itself. A child process may mark files as changed,
and that alters neither what a path leads to nor how it is resolved, nor what commands are found and do.
-/

namespace LintBridge

namespace FileTree

variable {t t' : FileTree}

/-- The same paths lead to files. -/
theorem SameShape.isFile (h : SameShape t t') (p : Path) : t.isFile p = t'.isFile p := by
  unfold FileTree.isFile
  rcases lookup_cases (h.placeOf p) h.nodes with ⟨e, he, he'⟩ | ⟨place, node, node', hnode, hnode', heq⟩
  · rw [he, he']
  · rw [hnode, hnode']
    cases node <;> cases node' <;> first | rfl | cases heq

/-- Names are resolved along the same links. -/
theorem SameShape.resolveNames (h : SameShape t t')
    {enter enter' : List (List String) → List String → List String → List String × Bool}
    (henter : ∀ unfinished here names, enter unfinished here names = enter' unfinished here names)
    (unfinished : List (List String)) (here names : List String) :
    t.resolveNames enter unfinished here names = t'.resolveNames enter' unfinished here names := by
  induction names generalizing here with
  | nil => rfl
  | cons name rest ih =>
    simp only [FileTree.resolveNames, ih]
    split
    next => rfl
    next =>
      cases hnode : t.node? (here ++ [name]) with
      | none => rw [h.vacant hnode]
      | some node =>
        cases node with
        | directory => rw [h.directory hnode]
        | file content count =>
          obtain ⟨content', count', hnode'⟩ := h.file hnode
          rw [hnode']
        | link target => simp only [h.link hnode, henter]

theorem SameShape.resolveFrom (h : SameShape t t') (depth : Nat) (unfinished : List (List String))
    (here names : List String) :
    t.resolveFrom depth unfinished here names = t'.resolveFrom depth unfinished here names := by
  induction depth generalizing unfinished here names with
  | zero => exact h.resolveNames (fun _ _ _ => rfl) unfinished here names
  | succ depth ih => exact h.resolveNames ih unfinished here names

/-- Trees of one shape with the same number of nodes resolve paths in the same way. -/
theorem SameShape.realPath (h : SameShape t t') (hcount : t.nodes.length = t'.nodes.length) (p : Path) :
    t.realPath p = t'.realPath p := by
  unfold FileTree.realPath origin
  rw [h.workingDirectory, hcount, h.resolveFrom]

/-- Marking a file makes no node and takes none away. -/
theorem length_touch (t : FileTree) (p : Path) : (t.touch p).nodes.length = t.nodes.length := by
  unfold touch
  split
  next place content count h =>
    obtain ⟨-, hnode⟩ := lookup_eq_ok_iff.1 h
    have hfound : Table.find? t.nodes place = some (.file content count) := by
      rwa [node?, if_neg (ne_nil_of_file hnode)] at hnode
    rw [set, Table.length_put, hfound]
    rfl
  next => rfl

end FileTree

/-- A host after files have been marked as changed. -/
structure Host.Marked (h h' : Host) : Prop where
  files : h.files.SameContents h'.files
  count : h.files.nodes.length = h'.files.nodes.length
  -- all that a host has besides its files
  rest : h' = { h with files := h'.files }

namespace Host.Marked

variable {h h' h'' : Host}

theorem refl (h : Host) : h.Marked h := ⟨.refl _, rfl, rfl⟩

theorem environment (hm : h.Marked h') : h.environment = h'.environment := by rw [hm.rest]

theorem executables (hm : h.Marked h') : h.executables = h'.executables := by rw [hm.rest]

theorem replies (hm : h.Marked h') : h.replies = h'.replies := by rw [hm.rest]

theorem platform (hm : h.Marked h') : h.platform = h'.platform := by rw [hm.rest]

theorem refusals (hm : h.Marked h') : h.refusals = h'.refusals := by rw [hm.rest]

theorem symm (hm : h.Marked h') : h'.Marked h := ⟨hm.files.symm, hm.count.symm, by rw [hm.rest]⟩

theorem trans (hm : h.Marked h') (hm' : h'.Marked h'') : h.Marked h'' :=
  ⟨hm.files.trans hm'.files, hm.count.trans hm'.count, by rw [hm'.rest, hm.rest]⟩

theorem isFile (hm : h.Marked h') (p : Path) : h.isFile p = h'.isFile p := by
  simp only [Host.isFile, hm.refusals, hm.files.sameShape.isFile p]

theorem realPath (hm : h.Marked h') (p : Path) : h.files.realPath p = h'.files.realPath p :=
  hm.files.sameShape.realPath hm.count p

theorem start (h : Host) (call : Command.Call) : h.Marked (h.start call).2 := by
  simp only [Host.start]
  split
  next p _ => exact ⟨FileTree.sameContents_touch _ p, (FileTree.length_touch _ p).symm, rfl⟩
  next => exact .refl h

end Host.Marked

/-- A step that writes no file marks files at most. -/
theorem Query.marked_answer {q : Query} (hq : q.KeepsFiles) (s : State) :
    s.host.Marked (q.answer s).2.host := by
  cases q with
  | write p content => exact hq.elim
  | start call => exact Host.Marked.start _ call
  | log record =>
    rw [Query.answer, State.host_log]
    exact .refl _
  | restart settings =>
    rw [Query.answer, State.host_apply]
    exact .refl _
  | _ => exact .refl _

/-- A routine that writes no file marks files at most. -/
theorem Routine.Asks.marked {α : Type} {r : Routine α} (h : r.Asks Query.KeepsFiles) (s : State) :
    s.host.Marked (r.run s).2.host :=
  h.run (I := fun s s' => s.host.Marked s'.host) (fun _ => .refl _) (fun _ _ _ => .trans)
    (fun _ s hq => Query.marked_answer hq s) s

end LintBridge
