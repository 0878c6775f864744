-- SUMMARY: Weaving ordered spans into a text replaces them in its units, unless two overlap or a gap is cut.
import LintBridge.Proofs.Result
import LintBridge.Proofs.Text.Boundary
import LintBridge.Text.Edit

/-!
# Splicing spans

A batch of edits is woven into a text from left to right, cutting what stands between the edits
out of the text. Here that is compared with replacing spans of units: the spans of a batch can be
replaced when no two overlap and no stretch that is kept begins or ends inside a surrogate pair, and
then replacing them one by one, the last one first, gives what weaving gives.
-/

namespace LintBridge.Text

/-! ## Spans -/

namespace Span

/-- Two spans overlap when they share a unit, or when one is empty and strictly within the other. -/
def overlaps (a b : Span) : Bool := a.start < b.stop && b.start < a.stop

/-- A span of a text of some length. -/
def Within (length : Nat) (a : Span) : Prop := a.start ≤ a.stop ∧ a.stop ≤ length

theorem overlaps_iff {a b : Span} (ha : a.start ≤ a.stop) (hb : b.start ≤ b.stop) :
    a.overlaps b ↔
      (∃ u, (a.start ≤ u ∧ u < a.stop) ∧ b.start ≤ u ∧ u < b.stop) ∨
        (a.start = a.stop ∧ b.start < a.start ∧ a.start < b.stop) ∨
        (b.start = b.stop ∧ a.start < b.start ∧ b.start < a.stop) := by
  simp only [overlaps, Bool.and_eq_true, decide_eq_true_eq]
  constructor
  · rintro ⟨h, h'⟩
    by_cases hshared : max a.start b.start < min a.stop b.stop
    · exact .inl ⟨max a.start b.start, by omega, by omega⟩
    · omega
  · rintro (⟨u, _, _⟩ | h | h) <;> omega

/-- Of two spans in order, the first ends before the second begins, or they overlap. -/
theorem not_overlaps_iff_of_le {a b : Span} (hb : b.start ≤ b.stop) (hab : le a b) :
    ¬ a.overlaps b ↔ a.stop ≤ b.start := by
  simp only [le, overlaps, Bool.or_eq_true, Bool.and_eq_true, decide_eq_true_eq, beq_iff_eq] at hab ⊢
  omega

/-- The units with a span replaced. -/
def replaceIn (us : List Nat) (span : Span) : List Nat :=
  us.take span.start ++ span.newText.units ++ us.drop span.stop

end Span

/-- The units with all spans replaced, the last one first. -/
def replaceAll (us : List Nat) (spans : List Span) : List Nat :=
  spans.foldr (fun span us => span.replaceIn us) us

theorem replaceAll_cons (us : List Nat) (span : Span) (rest : List Span) :
    replaceAll us (span :: rest) = span.replaceIn (replaceAll us rest) := rfl

/-- The stretches of a text from `cursor` on that no span covers: before the first span, between spans,
and after the last one. -/
def gaps (length cursor : Nat) : List Span → List (Nat × Nat)
  | [] => [(cursor, length)]
  | span :: rest => (cursor, span.start) :: gaps length span.stop rest

/-- Whether a gap has units and begins or ends inside a surrogate pair. -/
def parted (us : List Nat) (gap : Nat × Nat) : Bool :=
  gap.1 < gap.2 && (insidePair us gap.1 || insidePair us gap.2)

/-- Whether spans in order can be replaced: no two overlap, and every gap between them can be kept. -/
def Replaceable (us : List Nat) (cursor : Nat) (spans : List Span) : Prop :=
  spans.Pairwise (fun a b => ¬ a.overlaps b) ∧ ∀ gap ∈ gaps us.length cursor spans, ¬ parted us gap

/-! ## Gaps that can be kept -/

theorem parted_iff {s : List Char} {a b : Nat} (hab : a ≤ b) (hb : b ≤ unitLength s) :
    parted (units s) (a, b) ↔ slice? s a b = none := by
  simp [parted, slice?_eq_none_iff hab hb]

/-- A gap that is not parted is kept with its units. -/
theorem keep_of_not_parted {s : Snapshot} {a b : Nat} (hab : a ≤ b) (hb : b ≤ s.length)
    (h : ¬ parted (units s.text) (a, b)) :
    ∃ t, s.keep a b = .ok t ∧ units t = ((units s.text).take b).drop a := by
  rw [parted_iff hab hb, ← Ne, Option.ne_none_iff_exists'] at h
  obtain ⟨t, ht⟩ := h
  exact ⟨t, by simp [Snapshot.keep, Snapshot.slice?, ht], units_of_slice? hab hb ht⟩

theorem not_parted_of_keep {s : Snapshot} {a b : Nat} (hab : a ≤ b) (hb : b ≤ s.length) {t : List Char}
    (h : s.keep a b = .ok t) : ¬ parted (units s.text) (a, b) := by
  intro hcut
  rw [parted_iff hab hb] at hcut
  simp [Snapshot.keep, Snapshot.slice?, hcut] at h

/-! ## Replaceable spans -/

theorem take_replaceAll {us : List Nat} {p : Nat} (hp : p ≤ us.length) {spans : List Span}
    (h : ∀ span ∈ spans, p ≤ span.start) : (replaceAll us spans).take p = us.take p := by
  induction spans with
  | nil => rfl
  | cons span rest ih =>
    have ih := ih fun r hr => h r (List.mem_cons_of_mem _ hr)
    have hlen : p ≤ (replaceAll us rest).length := by
      have := congrArg List.length ih
      simp only [List.length_take] at this
      omega
    have hspan := h span (List.mem_cons_self ..)
    rw [replaceAll_cons, Span.replaceIn, List.append_assoc,
      List.take_append_of_le_length (by simp; omega), List.take_take, Nat.min_eq_left hspan, ih]

/-- Replacing spans leaves the units before them. -/
theorem le_length_replaceAll {us : List Nat} {p : Nat} (hp : p ≤ us.length) {spans : List Span}
    (h : ∀ span ∈ spans, p ≤ span.start) : p ≤ (replaceAll us spans).length := by
  have := congrArg List.length (take_replaceAll hp h)
  simp only [List.length_take] at this
  omega

/-- The first of some spans in order can be replaced with the others when the gap before it can be kept
and they begin behind it. -/
theorem replaceable_cons_iff {us : List Nat} {cursor : Nat} {span : Span} {rest : List Span}
    (hsorted : (span :: rest).Pairwise (Span.le · ·)) (hrest : ∀ r ∈ rest, r.start ≤ r.stop) :
    Replaceable us cursor (span :: rest) ↔
      ¬ parted us (cursor, span.start) ∧ (∀ r ∈ rest, span.stop ≤ r.start) ∧
        Replaceable us span.stop rest := by
  have hover : (∀ r ∈ rest, ¬ span.overlaps r) ↔ ∀ r ∈ rest, span.stop ≤ r.start := by
    refine forall_congr' fun r => forall_congr' fun hr => ?_
    exact Span.not_overlaps_iff_of_le (hrest r hr) (List.rel_of_pairwise_cons hsorted hr)
  simp only [Replaceable, gaps, List.pairwise_cons, List.forall_mem_cons, hover]
  grind

/-- What stands behind a span is what is left when the spans there have been replaced. -/
theorem drop_replaceIn {us : List Nat} {cursor : Nat} {span : Span} (hcursor : cursor ≤ span.start)
    (hlen : span.start ≤ us.length) :
    (span.replaceIn us).drop cursor =
      (us.take span.start).drop cursor ++ span.newText.units ++ us.drop span.stop := by
  rw [Span.replaceIn, List.append_assoc, List.drop_append_of_le_length (by simp; omega),
    List.append_assoc]

/-! ## Weaving -/

/-- Replaceable spans that begin behind the cursor are woven into the text from there. -/
theorem weave_of_replaceable {s : Snapshot} {cursor : Nat} {spans : List Span}
    (hcursor : cursor ≤ s.length) (hwithin : ∀ span ∈ spans, span.Within s.length)
    (hsorted : spans.Pairwise (Span.le · ·)) (hbegin : ∀ span ∈ spans, cursor ≤ span.start)
    (h : Replaceable (units s.text) cursor spans) :
    ∃ t, s.weave cursor spans = .ok t ∧ t.units = (replaceAll (units s.text) spans).drop cursor := by
  have hlen : (units s.text).length = s.length := length_units s.text
  induction spans generalizing cursor with
  | nil =>
    obtain ⟨t, ht, hu⟩ := keep_of_not_parted hcursor (Nat.le_refl _)
      (by simpa [Replaceable, gaps, hlen] using h)
    refine ⟨.ofChars t, by rw [Snapshot.weave, ht]; rfl, ?_⟩
    rw [Codes.units_ofChars, hu, List.take_of_length_le (Nat.le_of_eq hlen)]
    rfl
  | cons span rest ih =>
    rw [List.forall_mem_cons] at hwithin hbegin
    obtain ⟨⟨hstop, hstopLen⟩, hrest⟩ := hwithin
    obtain ⟨hgap, hbehind, htail⟩ := (replaceable_cons_iff hsorted fun r hr => (hrest r hr).1).1 h
    obtain ⟨kept, hkept, hkeptUnits⟩ := keep_of_not_parted hbegin.1 (by omega) hgap
    obtain ⟨after, hafter, hafterUnits⟩ := ih hstopLen hrest hsorted.of_cons hbehind htail
    refine ⟨.ofChars kept ++ span.newText ++ after, ?_, ?_⟩
    · have hmax : max cursor span.stop = span.stop := by omega
      rw [Snapshot.weave, if_neg (by omega), hkept, hmax, hafter]
      rfl
    · have hrestBegin : ∀ r ∈ rest, span.start ≤ r.start := fun r hr => Nat.le_trans hstop (hbehind r hr)
      have hsame : (replaceAll (units s.text) rest).take span.start = (units s.text).take span.start :=
        take_replaceAll (by omega) hrestBegin
      have hlenRest : span.start ≤ (replaceAll (units s.text) rest).length :=
        le_length_replaceAll (by omega) hrestBegin
      rw [Codes.units_append, Codes.units_append, Codes.units_ofChars, hkeptUnits, hafterUnits, replaceAll_cons,
        drop_replaceIn hbegin.1 hlenRest, hsame]

theorem weave_nil_eq_ok_iff {s : Snapshot} {cursor : Nat} {t : Codes} :
    s.weave cursor [] = .ok t ↔ ∃ kept, s.keep cursor s.length = .ok kept ∧ t = .ofChars kept := by
  simp only [Snapshot.weave, bind_eq_ok_iff, pure, Except.pure, Except.ok.injEq, eq_comm (a := t)]

theorem weave_cons_eq_ok_iff {s : Snapshot} {cursor : Nat} {span : Span} {rest : List Span}
    {t : Codes} :
    s.weave cursor (span :: rest) = .ok t ↔
      cursor ≤ span.start ∧ ∃ kept, s.keep cursor span.start = .ok kept ∧
        ∃ after, s.weave (max cursor span.stop) rest = .ok after ∧
          t = .ofChars kept ++ span.newText ++ after := by
  rw [Snapshot.weave]
  split
  next h => simp [Nat.not_le.2 h]
  next h =>
    simp only [bind_eq_ok_iff, pure, Except.pure, Except.ok.injEq, Nat.not_lt.1 h, true_and,
      eq_comm (a := t)]

/-- Spans that are woven into the text begin behind the cursor and are replaceable. -/
theorem replaceable_of_weave {s : Snapshot} {cursor : Nat} {spans : List Span} {t : Codes}
    (hcursor : cursor ≤ s.length) (hwithin : ∀ span ∈ spans, span.Within s.length)
    (hsorted : spans.Pairwise (Span.le · ·)) (h : s.weave cursor spans = .ok t) :
    (∀ span ∈ spans, cursor ≤ span.start) ∧ Replaceable (units s.text) cursor spans := by
  have hlen : (units s.text).length = s.length := length_units s.text
  induction spans generalizing cursor t with
  | nil =>
    obtain ⟨kept, hkept, -⟩ := weave_nil_eq_ok_iff.1 h
    have hgap := not_parted_of_keep hcursor (Nat.le_refl _) hkept
    exact ⟨by simp, by simpa [Replaceable, gaps, hlen] using hgap⟩
  | cons span rest ih =>
    rw [List.forall_mem_cons] at hwithin
    obtain ⟨⟨hstop, hstopLen⟩, hrest⟩ := hwithin
    obtain ⟨hbegin, kept, hkept, after, hafter, -⟩ := weave_cons_eq_ok_iff.1 h
    have hmax : max cursor span.stop = span.stop := by omega
    rw [hmax] at hafter
    obtain ⟨hbehind, htail⟩ := ih hstopLen hrest hsorted.of_cons hafter
    have hgap := not_parted_of_keep hbegin (by omega) hkept
    refine ⟨?_, (replaceable_cons_iff hsorted fun r hr => (hrest r hr).1).2 ⟨hgap, hbehind, htail⟩⟩
    rw [List.forall_mem_cons]
    exact ⟨hbegin, fun r hr => Nat.le_trans (by omega) (hbehind r hr)⟩

/-- What is woven into a text is all characters if the new texts are. -/
theorem whole_weave_iff {s : Snapshot} {cursor : Nat} {spans : List Span} {t : Codes}
    (h : s.weave cursor spans = .ok t) : t.Whole ↔ ∀ span ∈ spans, span.newText.Whole := by
  induction spans generalizing cursor t with
  | nil =>
    obtain ⟨kept, -, rfl⟩ := weave_nil_eq_ok_iff.1 h
    simp
  | cons span rest ih =>
    obtain ⟨-, kept, -, after, hafter, rfl⟩ := weave_cons_eq_ok_iff.1 h
    rw [List.forall_mem_cons, Codes.whole_append_iff, Codes.whole_append_iff, ih hafter]
    simp

/-! ## Ordered spans -/

instance (us : List Nat) (cursor : Nat) (spans : List Span) : Decidable (Replaceable us cursor spans) := by
  unfold Replaceable; infer_instance

/-- The units with ordered spans replaced, if that can be done. -/
def splice? (us : List Nat) (spans : List Span) : Option (List Nat) :=
  if Replaceable us 0 spans then some (replaceAll us spans) else none

/-- Weaving ordered spans into a text is splicing them into its units. -/
theorem weave_eq_splice? {s : Snapshot} {spans : List Span}
    (hwithin : ∀ span ∈ spans, span.Within s.length) (hsorted : spans.Pairwise (Span.le · ·)) :
    (s.weave 0 spans).toOption.map Codes.units = splice? (units s.text) spans := by
  unfold splice?
  split
  next h =>
    obtain ⟨t, ht, hu⟩ := weave_of_replaceable (Nat.zero_le _) hwithin hsorted (by simp) h
    rw [ht]
    simp [Except.toOption, hu]
  next h =>
    cases hw : s.weave 0 spans with
    | error e => rfl
    | ok t => exact absurd (replaceable_of_weave (Nat.zero_le _) hwithin hsorted hw).2 h

/-- Spans in the order in which they are applied: by start and then by end, those with equal ends in
the order given. -/
structure IsOrdering (spans ordered : List Span) : Prop where
  perm : ordered.Perm spans
  sorted : ordered.Pairwise (Span.le · ·)
  stable : ∀ start stop, ordered.filter (fun a => a.start == start && a.stop == stop) =
    spans.filter fun a => a.start == start && a.stop == stop

theorem Span.le_trans (a b c : Span) (hab : le a b) (hbc : le b c) : le a c := by
  simp only [Span.le, Bool.or_eq_true, Bool.and_eq_true, decide_eq_true_eq, beq_iff_eq] at *
  omega

theorem Span.le_total (a b : Span) : le a b || le b a := by
  simp only [Span.le, Bool.or_eq_true, Bool.and_eq_true, decide_eq_true_eq, beq_iff_eq]
  omega

theorem isOrdering_mergeSort (spans : List Span) : IsOrdering spans (spans.mergeSort Span.le) where
  perm := List.mergeSort_perm spans Span.le
  sorted := List.pairwise_mergeSort Span.le_trans Span.le_total spans
  stable start stop := by
    have hperm := List.mergeSort_perm spans Span.le
    generalize hp : (fun a : Span => a.start == start && a.stop == stop) = p
    -- spans with equal ends are in order among themselves, so the sort leaves them as they are
    have hpair : (spans.filter p).Pairwise (Span.le · ·) := by
      apply List.pairwise_of_forall_mem_list
      intro a ha b hb
      have ha := (List.mem_filter.1 ha).2
      have hb := (List.mem_filter.1 hb).2
      subst hp
      simp only [Bool.and_eq_true, beq_iff_eq] at ha hb
      simp [Span.le, ha, hb]
    have hsub := (List.sublist_mergeSort Span.le_trans Span.le_total hpair List.filter_sublist).filter p
    rw [List.filter_filter] at hsub
    simp only [Bool.and_self] at hsub
    exact (hsub.eq_of_length (hperm.filter p).length_eq.symm).symm

end LintBridge.Text
