-- SUMMARY: How looking for a file at one place after the other ends.
import LintBridge.Error
import LintBridge.Proofs.FileTree.Marked
import LintBridge.Proofs.Path.Ancestors
import LintBridge.Proofs.Routine.Asked

/-!
# Looking for a file

A search goes through candidates, each with the path where its file would be. It ends at the first one whose
file the system does not say to be missing: the candidate is found, or the system refuses to look.
-/

namespace LintBridge

open LintBridge.Path

/-! ## The end of a search -/

/-- The system does not say that there is no file at a path. -/
def Host.MayHave (h : Host) (p : Path) : Prop := h.isFile p ≠ .ok false

/-- How looking for the files of some candidates ends, one after the other. -/
inductive Host.Sought (h : Host) (place : Path → Path) (candidates : List Path) :
    Except LintError (Option Path) → Prop
  | found {p : Path} : IsFirst (fun q => h.MayHave (place q)) candidates p → h.isFile (place p) = .ok true →
      Sought h place candidates (.ok (some p))
  | refused {p : Path} {cause : FileError} : IsFirst (fun q => h.MayHave (place q)) candidates p →
      h.isFile (place p) = .error cause → Sought h place candidates (.error (.unsearchable (place p) cause))
  | missing : (∀ p ∈ candidates, h.isFile (place p) = .ok false) → Sought h place candidates (.ok none)

namespace Host

variable {h h' : Host} {place : Path → Path} {candidates rest : List Path} {p : Path}
  {result result' : Except LintError (Option Path)}

theorem not_mayHave_iff : ¬h.MayHave p ↔ h.isFile p = .ok false := Decidable.not_not

theorem isFile_files (hp : h.isFile p = .ok true) : h.files.isFile p = true := by
  unfold isFile at hp
  split at hp
  next => exact Except.ok.inj hp
  next => split at hp <;> cases hp

theorem Sought.unique (hresult : h.Sought place candidates result) (hresult' : h.Sought place candidates result') :
    result = result' := by
  have hnever {p : Path} (hfirst : IsFirst (fun q => h.MayHave (place q)) candidates p) :
      ¬∀ q ∈ candidates, h.isFile (place q) = .ok false := fun hnone => hfirst.holds (hnone p hfirst.mem)
  cases hresult with
  | found hfirst hfile =>
    cases hresult' with
    | found hfirst' => rw [hfirst.unique hfirst']
    | refused hfirst' hcause =>
      obtain rfl := hfirst.unique hfirst'
      cases hcause.symm.trans hfile
    | missing hnone => exact absurd hnone (hnever hfirst)
  | refused hfirst hcause =>
    cases hresult' with
    | found hfirst' hfile =>
      obtain rfl := hfirst.unique hfirst'
      cases hfile.symm.trans hcause
    | refused hfirst' hcause' =>
      obtain rfl := hfirst.unique hfirst'
      cases hcause.symm.trans hcause'
      rfl
    | missing hnone => exact absurd hnone (hnever hfirst)
  | missing hnone =>
    cases hresult' with
    | found hfirst => exact absurd hnone (hnever hfirst)
    | refused hfirst => exact absurd hnone (hnever hfirst)
    | missing => rfl

theorem sought_none_iff :
    h.Sought place candidates (.ok none) ↔ ∀ p ∈ candidates, h.isFile (place p) = .ok false :=
  ⟨fun | .missing hnone => hnone, .missing⟩

theorem sought_nil : h.Sought place [] (.ok none) := .missing (by simp)

theorem sought_cons_of_true (hp : h.isFile (place p) = .ok true) :
    h.Sought place (p :: rest) (.ok (some p)) :=
  .found (isFirst_cons.2 (.inl ⟨by simp [MayHave, hp], rfl⟩)) hp

theorem sought_cons_of_error {cause : FileError} (hp : h.isFile (place p) = .error cause) :
    h.Sought place (p :: rest) (.error (.unsearchable (place p) cause)) :=
  .refused (isFirst_cons.2 (.inl ⟨by simp [MayHave, hp], rfl⟩)) hp

/-- A candidate without a file is passed over. -/
theorem Sought.cons (hp : h.isFile (place p) = .ok false) (hrest : h.Sought place rest result) :
    h.Sought place (p :: rest) result := by
  have hnot : ¬h.MayHave (place p) := not_mayHave_iff.2 hp
  cases hrest with
  | found hfirst hfile => exact .found (isFirst_cons.2 (.inr ⟨hnot, hfirst⟩)) hfile
  | refused hfirst hcause => exact .refused (isFirst_cons.2 (.inr ⟨hnot, hfirst⟩)) hcause
  | missing hnone => exact .missing (List.forall_mem_cons.2 ⟨hp, hnone⟩)

/-- Where hosts answer in the same way, a search ends in the same way. -/
theorem Sought.of_isFile (hfile : ∀ p, h.isFile p = h'.isFile p) (hresult : h.Sought place candidates result) :
    h'.Sought place candidates result := by
  have hmay (q : Path) : h.MayHave q = h'.MayHave q := by rw [MayHave, MayHave, hfile]
  cases hresult with
  | found hfirst hp =>
    simp only [hmay] at hfirst
    exact .found hfirst (hfile _ ▸ hp)
  | refused hfirst hp =>
    simp only [hmay] at hfirst
    exact .refused hfirst (hfile _ ▸ hp)
  | missing hnone => exact .missing fun p hp => hfile _ ▸ hnone p hp

end Host

/-! ## One look-up -/

namespace Attempt

variable {ε : Type}

theorem runOn_isFile (refused : FileError → ε) (p : Path) (s : State) :
    (isFile refused p).runOn s = ((s.host.isFile p).mapError refused, s) := by
  rw [isFile, runOn_step_bind]
  simp only [Query.answer]
  cases s.host.isFile p with
  | ok found => rfl
  | error cause => rfl

end Attempt

end LintBridge
