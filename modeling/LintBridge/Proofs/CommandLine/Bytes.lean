-- SUMMARY: What the fix command leaves in the bytes of the file that it fixes.
import LintBridge.Proofs.CommandLine.Fix
import LintBridge.Proofs.Fix
import LintBridge.Proofs.Text.Bytes

/-!
# Bytes of a fixed file

A fix that applies its edits exchanges the bytes of the chosen replacements. What is outside of them is
in the file afterwards as it was before, whatever the text holds.
-/

namespace LintBridge.CommandLine

open Text FileTree

variable {s s' : State} {word : String} {verbose : Bool} {rule : Option Text.Codes} {l : LintRun}
  {fixed : List Char}

/-! ## Files read and written -/

theorem Linted.read_found {file : Path} (h : Linted s file rule verbose l) :
    s.host.files.read l.found = .ok (Utf8.encode l.text) := by
  obtain ⟨place, content, hplace, hnode, htext⟩ := textOf?_eq_some_iff.1 h.text
  rw [Utf8.encode_of_decode? htext]
  exact read_eq_ok_iff.2 ⟨place, l.time, hplace, hnode⟩

/-- The text that the edits are applied to is the one that was linted. -/
theorem Ready.apply_text (hs : s.host.files.HasWorkingDirectory)
    (h : Ready s (.ofString word) rule verbose l fixed) :
    (Snapshot.mk l.text).apply l.result.edits = .ok (.ofChars fixed) := by
  obtain ⟨text, time, htext, -, happly⟩ := h.current
  obtain ⟨place, content, hplaceNow, hnodeNow, hcontent⟩ := textOf?_eq_some_iff.1 htext
  have hplace := (h.linted.sameContents.placeOf _).trans hplaceNow
  obtain ⟨count, hnode⟩ := h.linted.sameContents.symm.file hnodeNow
  have hread := h.linted.read_found
  have hfound := h.linted.placeOf_found hs hplace
  cases hread.symm.trans (read_eq_ok_iff.2 ⟨place, count, hfound, hnode⟩)
  rw [Utf8.decode?_encode, Option.some.injEq] at hcontent
  rwa [hcontent]

/-- The file is read afterwards as the fixed text. -/
theorem Ready.read_found (hs : s.host.files.HasWorkingDirectory)
    (h : Ready s (.ofString word) rule verbose l fixed)
    (hrun : (fix (.ofString word) true rule verbose).runOn s = (.ok .success, s')) :
    s'.host.files.read l.found = .ok (Utf8.encode fixed) := by
  rcases h.runOn_fix hs with ⟨cause, s'', hraised, -⟩ | ⟨s'', place, old, count, hwritten, hplace, hnode, hsame⟩
  · cases hrun.symm.trans hraised
  cases hrun.symm.trans hwritten
  have hproper := Path.proper_ofString word
  have hreal := realPath_of_resolve h.linted.found
  have hstands := (stands_of_placeOf hs hproper hplace).set_file hnode (some (Utf8.encode fixed)) 0
  have hfound := realPath_of_placeOf hs hproper hplace
  rw [hreal] at hfound
  refine hsame.read (read_eq_ok_iff.2 ⟨place, 0, ?_, ?_⟩)
  · have hnul := h.linted.hasNul_found
    rw [hfound] at hnul ⊢
    exact placeOf_eq_ok_iff.2 ⟨hnul, hstands.walk maxHops⟩
  · rw [node?_set (ne_nil_of_file hnode), if_pos rfl]

/-! ## Fixed files -/

theorem apply_nil (s : Snapshot) : s.apply [] = .ok (.ofChars s.text) := by
  have hfull : s.slice? 0 s.length = some s.text := slice?_full s.text
  simp [Snapshot.apply, Span.ordered, Snapshot.weave, Snapshot.keep, hfull]

/-- A fix that ends well has applied its edits to the text that it has read, and the file holds what
they give. -/
theorem applied_of_success (hs : s.host.files.HasWorkingDirectory)
    (hrun : (fix (.ofString word) true rule verbose).runOn s = (.ok .success, s')) :
    ∃ l fixed, Linted s (.ofString word) rule verbose l ∧
      (Snapshot.mk l.text).apply l.result.edits = .ok (.ofChars fixed) ∧
      s'.host.files.read l.found = .ok (Utf8.encode fixed) := by
  rcases fix_ends hs word true rule verbose with ⟨-, l, fixed, hready⟩ | ⟨outcome, s'', hended, hsame, hexit⟩
  · exact ⟨l, fixed, hready.linted, hready.apply_text hs, hready.read_found hs hrun⟩
  · cases hrun.symm.trans hended
    cases hexit .success rfl with
    | shown _ _ happly => cases happly
    | @noEdits l hlinted hedits =>
      refine ⟨l, l.text, hlinted, ?_, hsame.read hlinted.read_found⟩
      rw [hedits]
      exact apply_nil ⟨l.text⟩

/-- A fix that ends well has exchanged the spans of the chosen replacements in the units of the text,
and the file holds their texts between the runs of bytes that it held outside of them. -/
theorem fix_keeps_other_bytes (hs : s.host.files.HasWorkingDirectory)
    (hrun : (fix (.ofString word) true rule verbose).runOn s = (.ok .success, s')) :
    ∃ l fixed old new ordered, Linted s (.ofString word) rule verbose l ∧
      s.host.files.read l.found = .ok old ∧ s'.host.files.read l.found = .ok new ∧
      old = Utf8.encode l.text ∧ new = Utf8.encode fixed ∧
      IsOrdering ((fixesOf rule l.failures).map (Replacement.settled ⟨l.text⟩)) ordered ∧
      splice? (units l.text) ordered = some (units fixed) ∧
      old = interleave (keptRuns l.text 0 ordered)
        (ordered.map fun span => bytesBetween l.text (span.start, span.stop)) ∧
      ∃ texts : List (List Char), ordered.map (·.newText) = texts.map Codes.ofChars ∧
        new = interleave (keptRuns l.text 0 ordered) (texts.map Utf8.encode) := by
  obtain ⟨l, fixed, hlinted, happly, hnew⟩ := applied_of_success hs hrun
  have hordering := isOrdering_mergeSort ((fixesOf rule l.failures).map (Replacement.settled ⟨l.text⟩))
  have hsplice := FixResult.apply_edits hlinted.result
  rw [happly, Except.toOption, Option.map_some, Codes.units_ofChars] at hsplice
  have hwithin := within_of_isOrdering hordering
  rw [Snapshot.apply, Span.ordered, FixResult.spans_ofFailures hlinted.result] at happly
  obtain ⟨texts, htexts, hencode⟩ := encode_weave (Nat.zero_le _) hwithin happly
  refine ⟨l, fixed, _, _, _, hlinted, hlinted.read_found, hnew, rfl, rfl, hordering, hsplice.symm, ?_,
    texts, htexts, hencode⟩
  simpa using encode_eq_interleave hwithin happly

theorem fix_keeps_other_bytes_project :
    project.host.files.HasWorkingDirectory ∧
      ∃ s', (fix (.ofString "/src/a.ts") true none false).runOn project = (.ok .success, s') ∧
        ∃ l old new ordered, Linted project (.ofString "/src/a.ts") none false l ∧
          project.host.files.read l.found = .ok old ∧ s'.host.files.read l.found = .ok new ∧
          old = interleave (keptRuns l.text 0 ordered)
            (ordered.map fun span => bytesBetween l.text (span.start, span.stop)) ∧
          ∃ texts : List (List Char), ordered.map (·.newText) = texts.map Codes.ofChars ∧
            new = interleave (keptRuns l.text 0 ordered) (texts.map Utf8.encode) := by
  obtain ⟨now, hready⟩ := ready_project
  rcases hready.runOn_fix hasWorkingDirectory_project with ⟨cause, s', -, hfault⟩ | ⟨s', -, -, -, hrun, -⟩
  · cases hfault
  obtain ⟨l, fixed, old, new, ordered, hlinted, hold, hnew, -, -, -, -, hkept, hchanged⟩ :=
    fix_keeps_other_bytes hasWorkingDirectory_project hrun
  exact ⟨hasWorkingDirectory_project, s', hrun, l, old, new, ordered, hlinted, hold, hnew, hkept, hchanged⟩

end LintBridge.CommandLine
