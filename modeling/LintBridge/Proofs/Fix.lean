-- SUMMARY: Applying the edits of a lint's failures is splicing their replacements into the units of the text.
import LintBridge.Fix
import LintBridge.Proofs.Text.Lines
import LintBridge.Proofs.Text.Splice

/-!
# Fixes by offsets

The library counts the replacements of its fixes in units, and they go out as edits between positions.
Placing those edits in the text again settles each offset, and nothing else is lost on the way.
-/

namespace LintBridge

open Text

/-! ## Settled offsets -/

namespace Text.Snapshot

theorem settle_le (s : Snapshot) (offset : Nat) : s.settle offset ≤ s.length := by
  unfold settle
  grind

theorem settle_mono (s : Snapshot) {a b : Nat} (h : a ≤ b) : s.settle a ≤ s.settle b := by
  unfold settle
  grind

/-- An offset within the text that parts no break is settled. -/
theorem settle_eq_self {s : Snapshot} {offset : Nat} (hle : offset ≤ s.length)
    (hbreak : ¬ insideBreak (units s.text) offset) : s.settle offset = offset := by
  simp [settle, Nat.min_eq_left hle, hbreak]

end Text.Snapshot

/-! ## Replacements as spans -/

/-- The span that the library gives for a replacement. -/
def Replacement.span (r : Replacement) : Span := ⟨r.start, r.stop, r.text⟩

/-- The span of a replacement with both ends settled. -/
def Replacement.settled (s : Snapshot) (r : Replacement) : Span :=
  ⟨s.settle r.start, s.settle r.stop, r.text⟩

theorem within_of_isOrdering {s : Snapshot} {rs : List Replacement} {ordered : List Span}
    (h : IsOrdering (rs.map (Replacement.settled s)) ordered) : ∀ span ∈ ordered, span.Within s.length := by
  intro span hspan
  obtain ⟨r, -, rfl⟩ := List.mem_map.1 (h.perm.mem_iff.1 hspan)
  exact ⟨s.settle_mono r.start_le_stop, s.settle_le r.stop⟩

/-- The replacements that fix the failures of a rule, or of any rule when none is given. -/
def fixesOf (rule : Option Codes) (fs : List Failure) : List Replacement :=
  (fs.filter fun f => rule.all (f.rule == some ·)).flatMap fun f => f.fix.getD []

theorem replacementsOf_selectRule (rule : Option Codes) (fs : List Failure) :
    replacementsOf (selectRule rule fs) = fixesOf rule fs := by
  cases rule with
  | none => exact congrArg replacementsOf (List.filter_eq_self.2 fun _ _ => rfl).symm
  | some name => rfl

/-! ## Edits -/

theorem Replacement.ofEdit_toEdit {s : Snapshot} {r : Replacement} {e : TextEdit}
    (h : r.toEdit s = .ok e) : Span.ofEdit s e = r.settled s := by
  simp only [toEdit, bind_eq_ok_iff] at h
  obtain ⟨start, hstart, stop, hstop, he⟩ := h
  cases he
  simp only [Span.ofEdit, settled, Snapshot.offsetAt_positionAt hstart,
    Snapshot.offsetAt_positionAt hstop, Snapshot.settle_clamp]

theorem Replacement.toEdit_isOk {s : Snapshot} (hs : s.length < 0x80000000) (r : Replacement) :
    ∃ e, r.toEdit s = .ok e := by
  obtain ⟨start, hstart⟩ := Snapshot.positionAt_isOk hs r.start
  obtain ⟨stop, hstop⟩ := Snapshot.positionAt_isOk hs r.stop
  exact ⟨⟨⟨start, stop⟩, r.text⟩, by rw [toEdit, hstart, hstop]; rfl⟩

theorem FixResult.version_ofFailures {s : Snapshot} {version : Int} {rule : Option Codes} {fs : List Failure}
    {result : FixResult} (h : ofFailures s version rule fs = .ok result) : result.version = version := by
  obtain ⟨edits, -, hresult⟩ := bind_eq_ok_iff.1 h
  cases hresult
  rfl

/-- The edits of a fix are placed at the settled spans of its replacements. -/
theorem FixResult.spans_ofFailures {s : Snapshot} {version : Int} {rule : Option Codes}
    {fs : List Failure} {result : FixResult} (h : ofFailures s version rule fs = .ok result) :
    result.edits.map (Span.ofEdit s) = (fixesOf rule fs).map (Replacement.settled s) := by
  simp only [ofFailures, bind_eq_ok_iff, replacementsOf_selectRule] at h
  obtain ⟨edits, hedits, hresult⟩ := h
  cases hresult
  exact map_eq_of_mapM (fun r e => Replacement.ofEdit_toEdit) hedits

/-- In a text that the editor protocol can count, all failures have their edits. -/
theorem FixResult.ofFailures_isOk {s : Snapshot} (hs : s.length < 0x80000000) (version : Int)
    (rule : Option Codes) (fs : List Failure) : ∃ result, ofFailures s version rule fs = .ok result := by
  have hall : ∀ r ∈ replacementsOf (selectRule rule fs), ∃ e, r.toEdit s = .ok e :=
    fun r _ => Replacement.toEdit_isOk hs r
  obtain ⟨edits, hedits⟩ := mapM_isOk hall
  exact ⟨⟨version, edits, rule⟩, by rw [ofFailures, hedits]; rfl⟩

/-- Applying the edits of a fix is splicing its settled replacements. -/
theorem FixResult.apply_edits {s : Snapshot} {version : Int} {rule : Option Codes}
    {fs : List Failure} {result : FixResult} (h : ofFailures s version rule fs = .ok result) :
    (s.apply result.edits).toOption.map Codes.units =
      splice? (units s.text) (((fixesOf rule fs).map (Replacement.settled s)).mergeSort Span.le) := by
  have hordering := isOrdering_mergeSort ((fixesOf rule fs).map (Replacement.settled s))
  rw [Snapshot.apply, Span.ordered, spans_ofFailures h]
  exact weave_eq_splice? (within_of_isOrdering hordering) hordering.sorted

/-- Replacements whose ends lie in the text and part no break are spliced just as the library gives
them. -/
theorem map_settled_eq {s : Snapshot} {rs : List Replacement}
    (h : ∀ r ∈ rs, r.stop ≤ s.length ∧ ¬ insideBreak (units s.text) r.start ∧
      ¬ insideBreak (units s.text) r.stop) :
    rs.map (Replacement.settled s) = rs.map Replacement.span := by
  refine List.map_congr_left fun r hr => ?_
  obtain ⟨hstop, hstartBreak, hstopBreak⟩ := h r hr
  have hstart := Nat.le_trans r.start_le_stop hstop
  simp only [Replacement.settled, Replacement.span, Snapshot.settle_eq_self hstart hstartBreak,
    Snapshot.settle_eq_self hstop hstopBreak]

/-- What the edits of a fix give is all characters if the texts of its replacements are. -/
theorem FixResult.whole_apply_iff {s : Snapshot} {version : Int} {rule : Option Codes} {fs : List Failure}
    {result : FixResult} (h : ofFailures s version rule fs = .ok result) {text : Codes}
    (happly : s.apply result.edits = .ok text) : text.Whole ↔ ∀ r ∈ fixesOf rule fs, r.text.Whole := by
  have hspan (r : Replacement) : (r.settled s).newText = r.text := rfl
  rw [Snapshot.apply, Span.ordered, spans_ofFailures h] at happly
  simp only [whole_weave_iff happly, List.mem_mergeSort, List.forall_mem_map, hspan]

/-- Going through positions loses nothing but what settling an offset takes: the edits of a fix give
the text in which the chosen replacements are spliced at their settled spans, or both are refused. It is all
characters if the replacements are. -/
theorem FixResult.edits_splice_replacements {s : Snapshot} (hs : s.length < 0x80000000) (version : Int)
    (rule : Option Codes) (fs : List Failure) :
    ∃ result ordered, ofFailures s version rule fs = .ok result ∧
      IsOrdering ((fixesOf rule fs).map (Replacement.settled s)) ordered ∧
      (s.apply result.edits).toOption.map Codes.units = splice? (units s.text) ordered ∧
      ((∀ r ∈ fixesOf rule fs, r.stop ≤ s.length ∧ ¬ insideBreak (units s.text) r.start ∧
          ¬ insideBreak (units s.text) r.stop) →
        IsOrdering ((fixesOf rule fs).map Replacement.span) ordered) ∧
      ∀ text, s.apply result.edits = .ok text → (text.Whole ↔ ∀ r ∈ fixesOf rule fs, r.text.Whole) := by
  obtain ⟨result, hresult⟩ := ofFailures_isOk hs version rule fs
  have hordering := isOrdering_mergeSort ((fixesOf rule fs).map (Replacement.settled s))
  refine ⟨result, _, hresult, hordering, apply_edits hresult, fun hin => ?_, fun _ => whole_apply_iff hresult⟩
  rwa [← map_settled_eq hin]

/-- A fix of one rule that parts a break, in a text with every kind of break and an astral character. -/
theorem FixResult.edits_splice_mixed_breaks :
    let s : Snapshot := ⟨"a\r\n😀b\rc\n".toList⟩
    let fs : List Failure := [
      ⟨"", some "eol", ⟨2, 0, 0⟩, ⟨9, 0, 0⟩, some [⟨2, 9, "\n", by decide⟩, ⟨0, 1, "é", by decide⟩]⟩,
      ⟨"", some "quotes", ⟨0, 0, 0⟩, ⟨0, 0, 0⟩, none⟩]
    s.length < 0x80000000 ∧ ∃ result ordered, ofFailures s 4 (some "eol") fs = .ok result ∧
      IsOrdering [⟨1, 9, "\n"⟩, ⟨0, 1, "é"⟩] ordered ∧
      (s.apply result.edits).toOption.map Codes.units = splice? (units s.text) ordered := by
  refine ⟨by decide, ?_⟩
  obtain ⟨result, ordered, hresult, hordering, happly, -⟩ := edits_splice_replacements
    (s := ⟨"a\r\n😀b\rc\n".toList⟩) (by decide) 4 (some "eol")
    [⟨"", some "eol", ⟨2, 0, 0⟩, ⟨9, 0, 0⟩, some [⟨2, 9, "\n", by decide⟩, ⟨0, 1, "é", by decide⟩]⟩,
      ⟨"", some "quotes", ⟨0, 0, 0⟩, ⟨0, 0, 0⟩, none⟩]
  exact ⟨result, ordered, hresult, hordering, happly⟩

end LintBridge
