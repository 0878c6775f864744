-- SUMMARY: A batch of edits replaces its spans from the last to the first, whatever order it is given in.
import LintBridge.Proofs.Text.Lines
import LintBridge.Proofs.Text.Splice
import Mathlib.Data.List.Permutation

/-!
# Batches of edits

The spans of a batch are ordered by their offsets, those with equal offsets as they are given. Which of
them clash and which stretches they leave decides whether the batch applies. When it does, the spans are
replaced as if one by one from the last to the first, so what is inserted at one offset stands there in
the order given, before what replaces the text behind it.
-/

namespace LintBridge.Text

/-! ## The order of a batch -/

/-- Whether a span has these ends. -/
def Span.hasEnds (start stop : Nat) (a : Span) : Bool := a.start == start && a.stop == stop

/-- Whether an edit is placed at these offsets. -/
def TextEdit.placedAt (s : Snapshot) (start stop : Nat) (e : TextEdit) : Bool :=
  s.offsetAt e.range.start == start && s.offsetAt e.range.stop == stop

theorem filter_map_ofEdit (s : Snapshot) (start stop : Nat) (edits : List TextEdit) :
    (edits.map (Span.ofEdit s)).filter (Span.hasEnds start stop) =
      (edits.filter (TextEdit.placedAt s start stop)).map (Span.ofEdit s) :=
  List.filter_map

theorem Span.ends_eq_of_le {a b : Span} (hab : le a b) (hba : le b a) : hasEnds a.start a.stop b := by
  simp only [le, hasEnds, Bool.or_eq_true, Bool.and_eq_true, decide_eq_true_eq, beq_iff_eq] at *
  omega

/-- Spans in order are determined by what they are and by the order of those with equal ends. -/
theorem eq_of_sorted {xs ys : List Span} (hperm : xs.Perm ys) (hxs : xs.Pairwise (Span.le · ·))
    (hys : ys.Pairwise (Span.le · ·))
    (hties : ∀ start stop, xs.filter (Span.hasEnds start stop) = ys.filter (Span.hasEnds start stop)) :
    xs = ys := by
  induction xs generalizing ys with
  | nil => exact hperm.nil_eq
  | cons a xs ih =>
    cases ys with
    | nil => exact hperm.eq_nil
    | cons b ys =>
      -- each head is in the other list, so neither comes before the other
      have hab : a.le b := by
        rcases List.mem_cons.1 (hperm.mem_iff.2 List.mem_cons_self) with rfl | hb
        · exact (Bool.or_self _).symm.trans (Span.le_total b b)
        · exact List.rel_of_pairwise_cons hxs hb
      have hba : b.le a := by
        rcases List.mem_cons.1 (hperm.mem_iff.1 List.mem_cons_self) with rfl | ha
        · exact (Bool.or_self _).symm.trans (Span.le_total a a)
        · exact List.rel_of_pairwise_cons hys ha
      have hself : Span.hasEnds a.start a.stop a := by simp [Span.hasEnds]
      have hhead := hties a.start a.stop
      rw [List.filter_cons_of_pos hself, List.filter_cons_of_pos (Span.ends_eq_of_le hab hba)] at hhead
      obtain ⟨rfl, -⟩ := List.cons.inj hhead
      rw [ih hperm.cons_inv hxs.of_cons hys.of_cons fun start stop => ?_]
      have h := hties start stop
      by_cases ha : Span.hasEnds start stop a
      · rw [List.filter_cons_of_pos ha, List.filter_cons_of_pos ha] at h
        exact (List.cons.inj h).2
      · rwa [List.filter_cons_of_neg ha, List.filter_cons_of_neg ha] at h

/-- Two lists of the same spans, those with equal ends in the same order, are ordered alike. -/
theorem IsOrdering.unique {xs ys ordered ordered' : List Span} (h : IsOrdering xs ordered)
    (h' : IsOrdering ys ordered') (hperm : xs.Perm ys)
    (hties : ∀ start stop, xs.filter (Span.hasEnds start stop) = ys.filter (Span.hasEnds start stop)) :
    ordered = ordered' :=
  eq_of_sorted ((h.perm.trans hperm).trans h'.perm.symm) h.sorted h'.sorted fun start stop =>
    ((h.stable start stop).trans (hties start stop)).trans (h'.stable start stop).symm

theorem isOrdering_ordered (s : Snapshot) (edits : List TextEdit) :
    IsOrdering (edits.map (Span.ofEdit s)) (Span.ordered s edits) :=
  isOrdering_mergeSort _

theorem IsOrdering.eq_ordered {s : Snapshot} {edits : List TextEdit} {ordered : List Span}
    (h : IsOrdering (edits.map (Span.ofEdit s)) ordered) : Span.ordered s edits = ordered :=
  (isOrdering_ordered s edits).unique h (List.Perm.refl _) fun _ _ => rfl

/-- Two lists of the same edits, those at the same two offsets in the same order in both. -/
structure SameBatch (s : Snapshot) (edits edits' : List TextEdit) : Prop where
  perm : edits.Perm edits'
  ties : ∀ start stop,
    edits.filter (TextEdit.placedAt s start stop) = edits'.filter (TextEdit.placedAt s start stop)

/-- The order of a batch does not matter, but for the order of edits at the same offsets. -/
theorem apply_of_sameBatch {s : Snapshot} {edits edits' : List TextEdit} (h : SameBatch s edits edits') :
    s.apply edits = s.apply edits' := by
  have hties (start stop : Nat) : (edits.map (Span.ofEdit s)).filter (Span.hasEnds start stop) =
      (edits'.map (Span.ofEdit s)).filter (Span.hasEnds start stop) := by
    rw [filter_map_ofEdit, filter_map_ofEdit, h.ties]
  have hordered : Span.ordered s edits = Span.ordered s edits' :=
    (isOrdering_ordered s edits).unique (isOrdering_ordered s edits') (h.perm.map _) hties
  rw [Snapshot.apply, hordered, Snapshot.apply]

/-- Insertions at two positions of one offset, one of them past the end of its line, moved as they stand
to behind a later edit. -/
theorem apply_of_sameBatch_clamped :
    let s : Snapshot := ⟨"a\nb".toList⟩
    let x : TextEdit := ⟨⟨⟨0, 1, by decide, by decide⟩, ⟨0, 1, by decide, by decide⟩⟩, "x"⟩
    let y : TextEdit := ⟨⟨⟨0, 7, by decide, by decide⟩, ⟨0, 7, by decide, by decide⟩⟩, "y"⟩
    let c : TextEdit := ⟨⟨⟨1, 0, by decide, by decide⟩, ⟨1, 1, by decide, by decide⟩⟩, "c"⟩
    SameBatch s [x, y, c] [c, x, y] ∧ s.apply [x, y, c] = s.apply [c, x, y] := by
  intro s x y c
  have hsame : SameBatch s [x, y, c] [c, x, y] := by
    refine ⟨by decide, fun start stop => ?_⟩
    have hx : x.placedAt s start stop = (1 == start && 1 == stop) := rfl
    have hy : y.placedAt s start stop = (1 == start && 1 == stop) := rfl
    have hc : c.placedAt s start stop = (2 == start && 3 == stop) := rfl
    simp only [List.filter_cons, List.filter_nil, hx, hy, hc]
    grind
  exact ⟨hsame, apply_of_sameBatch hsame⟩

/-! ## Where edits are placed -/

/-- The spans of edits whose ends are in order are spans of the text. -/
theorem within_of_forward {s : Snapshot} {edits : List TextEdit} {ordered : List Span}
    (hforward : ∀ e ∈ edits, s.offsetAt e.range.start ≤ s.offsetAt e.range.stop)
    (hordered : IsOrdering (edits.map (Span.ofEdit s)) ordered) :
    ∀ span ∈ ordered, span.Within s.length := by
  intro span hspan
  obtain ⟨e, he, rfl⟩ := List.mem_map.1 (hordered.perm.mem_iff.1 hspan)
  exact ⟨hforward e he, s.offsetAt_le _⟩

/-! ## Separate spans -/

namespace Span

/-- Whether a unit is one of those that a span replaces. -/
def Covers (a : Span) (u : Nat) : Prop := a.start ≤ u ∧ u < a.stop

/-- Whether a span is empty and strictly inside another. -/
def StandsIn (a b : Span) : Prop := a.start = a.stop ∧ b.start < a.start ∧ a.start < b.stop

/-- Two spans clash when they share a unit, or when one is empty and strictly inside the other. -/
def Clashes (a b : Span) : Prop := (∃ u, a.Covers u ∧ b.Covers u) ∨ a.StandsIn b ∨ b.StandsIn a

end Span

/-- Spans in order of which no two clash, and which leave no stretch of units that begins or ends inside
a surrogate pair. -/
structure Separate (us : List Nat) (ordered : List Span) : Prop where
  apart : ordered.Pairwise fun a b => ¬ a.Clashes b
  whole : ∀ gap ∈ gaps us.length 0 ordered, gap.1 < gap.2 →
    ¬ insidePair us gap.1 ∧ ¬ insidePair us gap.2

theorem separate_iff_replaceable {us : List Nat} {ordered : List Span}
    (hforward : ∀ span ∈ ordered, span.start ≤ span.stop) :
    Separate us ordered ↔ Replaceable us 0 ordered := by
  have hapart : (ordered.Pairwise fun a b => ¬ a.Clashes b) ↔ ordered.Pairwise fun a b => ¬ a.overlaps b :=
    List.Pairwise.iff_of_mem fun ha hb =>
      not_congr (Span.overlaps_iff (hforward _ ha) (hforward _ hb)).symm
  have hwhole (gap : Nat × Nat) : ¬ parted us gap ↔
      (gap.1 < gap.2 → ¬ insidePair us gap.1 ∧ ¬ insidePair us gap.2) := by
    simp [parted]
  simp only [Replaceable, hwhole, ← hapart]
  exact ⟨fun h => ⟨h.apart, h.whole⟩, fun h => ⟨h.1, h.2⟩⟩

/-- Of separate spans in order, each ends before the next begins. -/
theorem Separate.ends_before {us : List Nat} {ordered : List Span} (h : Separate us ordered)
    (hforward : ∀ span ∈ ordered, span.start ≤ span.stop) (hsorted : ordered.Pairwise (Span.le · ·)) :
    ordered.Pairwise fun a b => a.stop ≤ b.start := by
  have hapart := ((separate_iff_replaceable hforward).1 h).1
  refine (hsorted.and hapart).imp_of_mem fun {a b} _ hb hab => ?_
  exact (Span.not_overlaps_iff_of_le (hforward b hb) hab.1).1 hab.2

/-! ## What is inserted at one offset -/

theorem replaceAll_append (us : List Nat) (xs ys : List Span) :
    replaceAll us (xs ++ ys) = replaceAll (replaceAll us ys) xs :=
  List.foldr_append

/-- Spans within a text are replaced there whatever stands behind it. -/
theorem replaceAll_text_append {us : List Nat} (rest : List Nat) {spans : List Span}
    (hwithin : ∀ span ∈ spans, span.Within us.length)
    (happart : spans.Pairwise fun a b => a.stop ≤ b.start) :
    replaceAll (us ++ rest) spans = replaceAll us spans ++ rest := by
  induction spans with
  | nil => rfl
  | cons span spans ih =>
    rw [List.forall_mem_cons] at hwithin
    obtain ⟨⟨hstart, hstop⟩, hspans⟩ := hwithin
    have hlen := le_length_replaceAll hstop fun r hr => List.rel_of_pairwise_cons happart hr
    rw [replaceAll_cons, ih hspans happart.of_cons, replaceAll_cons, Span.replaceIn, Span.replaceIn,
      List.take_append_of_le_length (by omega), List.drop_append_of_le_length hlen]
    simp only [List.append_assoc]

/-- Empty spans at one offset put their texts there in order. -/
theorem replaceAll_insertions {us : List Nat} {p : Nat} (hp : p ≤ us.length) {spans : List Span}
    (h : ∀ span ∈ spans, span.hasEnds p p) :
    replaceAll us spans = us.take p ++ spans.flatMap (fun span => span.newText.units) ++ us.drop p := by
  induction spans with
  | nil => simp [replaceAll]
  | cons span spans ih =>
    rw [List.forall_mem_cons] at h
    obtain ⟨hspan, hspans⟩ := h
    simp only [Span.hasEnds, Bool.and_eq_true, beq_iff_eq] at hspan
    have hlen : (us.take p).length = p := by simp [hp]
    rw [replaceAll_cons, ih hspans, Span.replaceIn, hspan.1, hspan.2, List.append_assoc (us.take p),
      List.take_left' hlen, List.drop_left' hlen, List.flatMap_cons]
    simp only [List.append_assoc]

/-- Spans in order split at a bound below which everything comes first. -/
theorem filter_append_of_sorted {spans : List Span} (low : Span → Bool)
    (hsorted : spans.Pairwise (Span.le · ·))
    (hlow : ∀ a ∈ spans, ∀ b ∈ spans, a.le b → low b → low a) :
    spans = spans.filter low ++ spans.filter (! low ·) := by
  induction spans with
  | nil => rfl
  | cons a spans ih =>
    have hih := ih hsorted.of_cons fun a ha b hb =>
      hlow a (List.mem_cons_of_mem _ ha) b (List.mem_cons_of_mem _ hb)
    by_cases ha : low a
    · simpa [ha] using hih
    · have hrest : ∀ b ∈ spans, ¬ low b := fun b hb hb' =>
        ha (hlow a List.mem_cons_self b (List.mem_cons_of_mem _ hb) (List.rel_of_pairwise_cons hsorted hb) hb')
      have hnone : spans.filter low = [] := List.filter_eq_nil_iff.2 hrest
      rw [hnone, List.nil_append] at hih
      simp [ha, hnone, ← hih]

/-- Around an offset where nothing is replaced across, spans in order are those that begin before it,
those that insert there, and those that end behind it. -/
theorem split_at_offset {spans : List Span} {p : Nat} (hsorted : spans.Pairwise (Span.le · ·))
    (hforward : ∀ span ∈ spans, span.start ≤ span.stop)
    (hclear : ∀ span ∈ spans, span.start < p → span.stop ≤ p) :
    spans = spans.filter (·.start < p) ++ spans.filter (Span.hasEnds p p) ++
      spans.filter (p < ·.stop) := by
  have hle {a b : Span} (h : a.le b) : a.start < b.start ∨ a.start = b.start ∧ a.stop ≤ b.stop := by
    simpa [Span.le] using h
  have hfirst := filter_append_of_sorted (fun a => a.start < p) hsorted fun a _ b _ hab hb => by
    have := hle hab
    simp only [decide_eq_true_eq] at hb ⊢
    omega
  have hrest := filter_append_of_sorted (fun a => a.stop ≤ p)
    (hsorted.filter fun a => ! decide (a.start < p)) fun a ha b hb hab hb' => by
      have := hle hab
      have hb := List.mem_filter.1 hb
      have := hforward b hb.1
      have ha := (List.mem_filter.1 ha).2
      have hb := hb.2
      simp only [Bool.not_eq_true', decide_eq_false_iff_not, decide_eq_true_eq] at ha hb hb' ⊢
      omega
  have hat : (spans.filter fun a => ! decide (a.start < p)).filter (·.stop ≤ p) =
      spans.filter (Span.hasEnds p p) := by
    rw [List.filter_filter]
    refine List.filter_congr fun a ha => ?_
    have := hforward a ha
    rw [Bool.eq_iff_iff]
    simp only [Span.hasEnds, Bool.and_eq_true, Bool.not_eq_true', decide_eq_true_eq,
      decide_eq_false_iff_not, beq_iff_eq]
    omega
  have hbehind : (spans.filter fun a => ! decide (a.start < p)).filter (fun a => ! decide (a.stop ≤ p)) =
      spans.filter (p < ·.stop) := by
    rw [List.filter_filter]
    refine List.filter_congr fun a ha => ?_
    have := hclear a ha
    rw [Bool.eq_iff_iff]
    simp only [Bool.and_eq_true, Bool.not_eq_true', decide_eq_true_eq, decide_eq_false_iff_not]
    omega
  rw [hat, hbehind] at hrest
  rw [List.append_assoc, ← hrest]
  exact hfirst

/-- The units that a batch inserts at an offset, in the order of its edits. -/
def insertedAt (s : Snapshot) (edits : List TextEdit) (p : Nat) : List Nat :=
  (edits.filter (TextEdit.placedAt s p p)).flatMap fun e => e.newText.units

/-- The units with spans in order replaced around what is inserted at an offset: before it what comes of
the spans that begin earlier, behind it what comes of those that end later. -/
def replacedAround (us : List Nat) (ordered : List Span) (p : Nat) (inserted : List Nat) : List Nat :=
  replaceAll (us.take p) (ordered.filter (·.start < p)) ++ inserted ++
    (replaceAll us (ordered.filter (p < ·.stop))).drop p

/-- No span reaches across an offset at which another one inserts. -/
theorem stop_le_of_insertion {spans : List Span} {a b : Span}
    (hends : spans.Pairwise fun a b => a.stop ≤ b.start) (ha : a ∈ spans) (hempty : a.start = a.stop)
    (hb : b ∈ spans) (hlt : b.start < a.start) : b.stop ≤ a.start := by
  obtain ⟨before, after, rfl⟩ := List.append_of_mem ha
  rw [List.pairwise_append, List.pairwise_cons] at hends
  obtain ⟨-, ⟨hafter, -⟩, hbefore⟩ := hends
  rcases List.mem_append.1 hb with hb | hb
  · exact hbefore b hb a List.mem_cons_self
  · rcases List.mem_cons.1 hb with rfl | hb
    · exact absurd hlt (Nat.lt_irrefl _)
    · have hbehind : a.start ≤ b.start := Nat.le_trans (Nat.le_of_eq hempty) (hafter b hb)
      exact absurd hlt (Nat.not_lt.2 hbehind)

/-- At an offset where spans insert, replacing separate spans puts the texts inserted there in order,
before whatever replaces the units behind it. -/
theorem replaceAll_around {us : List Nat} {ordered : List Span} {p : Nat} {a : Span}
    (h : Separate us ordered) (hwithin : ∀ span ∈ ordered, span.Within us.length)
    (hsorted : ordered.Pairwise (Span.le · ·)) (ha : a ∈ ordered) (hap : a.hasEnds p p) :
    replaceAll us ordered = replacedAround us ordered p
      ((ordered.filter (Span.hasEnds p p)).flatMap fun span => span.newText.units) := by
  have hforward : ∀ span ∈ ordered, span.start ≤ span.stop := fun span hspan => (hwithin span hspan).1
  have hends := h.ends_before hforward hsorted
  simp only [Span.hasEnds, Bool.and_eq_true, beq_iff_eq] at hap
  obtain ⟨hstart, hstop⟩ := hap
  have hp : p ≤ us.length := hstop ▸ (hwithin a ha).2
  have hclear : ∀ span ∈ ordered, span.start < p → span.stop ≤ p := by
    intro span hspan hlt
    have hinsertion := stop_le_of_insertion hends ha (hstart.trans hstop.symm) hspan
    rw [hstart] at hinsertion
    exact hinsertion hlt
  have hbehind : ∀ span ∈ ordered.filter (p < ·.stop), p ≤ span.start := by
    intro span hspan
    obtain ⟨hspan, hlt⟩ := List.mem_filter.1 hspan
    have := hclear span hspan
    simp only [decide_eq_true_eq] at hlt
    omega
  have hbefore : ∀ span ∈ ordered.filter (·.start < p), span.Within (us.take p).length := by
    intro span hspan
    obtain ⟨hspan, hlt⟩ := List.mem_filter.1 hspan
    have := hclear span hspan (of_decide_eq_true hlt)
    exact ⟨hforward span hspan, by simp; omega⟩
  have hlen := le_length_replaceAll hp hbehind
  have htake := take_replaceAll hp hbehind
  have hsplit := congrArg (replaceAll us) (split_at_offset hsorted hforward hclear)
  rw [hsplit, replaceAll_append, replaceAll_append,
    replaceAll_insertions hlen fun span hspan => (List.mem_filter.1 hspan).2, htake, List.append_assoc,
    replaceAll_text_append _ hbefore (hends.filter _), replacedAround, List.append_assoc]

/-! ## Applying a batch -/

/-- What a batch of edits gives is all characters if the new texts are. -/
theorem whole_apply_iff {s : Snapshot} {edits : List TextEdit} {text : Codes} (h : s.apply edits = .ok text) :
    text.Whole ↔ ∀ e ∈ edits, e.newText.Whole := by
  have hspan (e : TextEdit) : (Span.ofEdit s e).newText = e.newText := rfl
  simp only [whole_weave_iff h, Span.ordered, List.mem_mergeSort, List.forall_mem_map, hspan]

/-- A batch of edits whose ends are in order applies exactly when its spans are separate. It then replaces
them as if one by one from the last to the first, so at an offset where it inserts, the texts stand in
the order of the edits, behind what comes of the earlier spans and before what replaces the units there. What it
gives is all characters if the new texts are. -/
theorem apply_replaces_last_first {s : Snapshot} {edits : List TextEdit} {ordered : List Span}
    (hforward : ∀ e ∈ edits, s.offsetAt e.range.start ≤ s.offsetAt e.range.stop)
    (hordered : IsOrdering (edits.map (Span.ofEdit s)) ordered) :
    ((∃ text, s.apply edits = .ok text) ↔ Separate (units s.text) ordered) ∧
      (¬ Separate (units s.text) ordered → ∃ e, s.apply edits = .error e) ∧
      ∀ text, s.apply edits = .ok text →
        text.units = replaceAll (units s.text) ordered ∧ (text.Whole ↔ ∀ e ∈ edits, e.newText.Whole) ∧
        ∀ p, (∃ e ∈ edits, e.placedAt s p p) →
          text.units = replacedAround (units s.text) ordered p (insertedAt s edits p) := by
  have hwithin := within_of_forward hforward hordered
  have hspans : ∀ span ∈ ordered, span.start ≤ span.stop := fun span hspan => (hwithin span hspan).1
  have happly : s.apply edits = s.weave 0 ordered := by rw [Snapshot.apply, hordered.eq_ordered]
  have hweave {text : Codes} (h : s.apply edits = .ok text) : Separate (units s.text) ordered :=
    (separate_iff_replaceable hspans).2
      (replaceable_of_weave (Nat.zero_le _) hwithin hordered.sorted (happly ▸ h)).2
  have hok (h : Separate (units s.text) ordered) :
      ∃ text, s.apply edits = .ok text ∧ text.units = replaceAll (units s.text) ordered :=
    happly ▸ weave_of_replaceable (Nat.zero_le _) hwithin hordered.sorted (by simp)
      ((separate_iff_replaceable hspans).1 h)
  refine ⟨⟨fun ⟨text, h⟩ => hweave h, fun h => ?_⟩, fun h => ?_, fun text h => ?_⟩
  · obtain ⟨text, htext, -⟩ := hok h
    exact ⟨text, htext⟩
  · cases hresult : s.apply edits with
    | error e => exact ⟨e, rfl⟩
    | ok text => exact absurd (hweave hresult) h
  · obtain ⟨text', htext', hunits⟩ := hok (hweave h)
    obtain rfl : text' = text := Except.ok.inj (htext'.symm.trans h)
    refine ⟨hunits, whole_apply_iff h, ?_⟩
    rintro p ⟨e, he, hp⟩
    have hmem : Span.ofEdit s e ∈ ordered := hordered.perm.mem_iff.2 (List.mem_map_of_mem he)
    have hin : (ordered.filter (Span.hasEnds p p)).flatMap (fun span => span.newText.units) =
        insertedAt s edits p := by
      rw [show ordered.filter (Span.hasEnds p p) = _ from hordered.stable p p]
      exact (congrArg _ (filter_map_ofEdit s p p edits)).trans (List.flatMap_map ..)
    rw [hunits, replaceAll_around (hweave h) (fun span hspan => by
      simpa [length_units, Snapshot.length] using hwithin span hspan) hordered.sorted hmem hp, hin]

/-- Insertions that touch a deletion of an astral character on one side and a replacement on the other. -/
theorem apply_replaces_last_first_touching :
    let s : Snapshot := ⟨"a😀b".toList⟩
    let edits : List TextEdit := [
      ⟨⟨⟨0, 3, by decide, by decide⟩, ⟨0, 9, by decide, by decide⟩⟩, "c"⟩,
      ⟨⟨⟨0, 3, by decide, by decide⟩, ⟨0, 3, by decide, by decide⟩⟩, "x"⟩,
      ⟨⟨⟨0, 1, by decide, by decide⟩, ⟨0, 3, by decide, by decide⟩⟩, ""⟩,
      ⟨⟨⟨0, 3, by decide, by decide⟩, ⟨0, 3, by decide, by decide⟩⟩, "y"⟩]
    let ordered : List Span := [⟨1, 3, []⟩, ⟨3, 3, "x"⟩, ⟨3, 3, "y"⟩, ⟨3, 4, "c"⟩]
    (∀ e ∈ edits, s.offsetAt e.range.start ≤ s.offsetAt e.range.stop) ∧
      IsOrdering (edits.map (Span.ofEdit s)) ordered ∧ Separate (units s.text) ordered ∧
      ∃ text, s.apply edits = .ok text ∧ text.units = units "axyc".toList ∧ text.Whole ∧
        text.units = replacedAround (units s.text) ordered 3 (units "xy".toList) := by
  intro s edits ordered
  have hforward : ∀ e ∈ edits, s.offsetAt e.range.start ≤ s.offsetAt e.range.stop := by decide
  have hordered : IsOrdering (edits.map (Span.ofEdit s)) ordered := by
    have hsort : (edits.map (Span.ofEdit s)).mergeSort Span.le = ordered := by cbv
    exact hsort ▸ isOrdering_mergeSort _
  have hseparate : Separate (units s.text) ordered :=
    (separate_iff_replaceable (by decide)).2 (by decide)
  obtain ⟨happlies, -, hresult⟩ := apply_replaces_last_first hforward hordered
  obtain ⟨text, htext⟩ := happlies.2 hseparate
  obtain ⟨hunits, hwhole, hinserted⟩ := hresult text htext
  have hinsert : ∃ e ∈ edits, e.placedAt s 3 3 := by decide
  have hnew : ∀ e ∈ edits, e.newText.Whole := by simp [edits]
  exact ⟨hforward, hordered, hseparate, text, htext, hunits, hwhole.2 hnew, hinserted 3 hinsert⟩

end LintBridge.Text
