-- SUMMARY: The line table of a text is that of the one division of the text into lines.
import LintBridge.Proofs.Text.Lines

/-!
# Division into lines

A text is divided into lines from left to right: CR LF ends a line, else LF, else CR. Every text has
exactly one such division, and the table of its lines says where each of them begins and where its content
ends, in units.
-/

namespace LintBridge.Text

/-- What ends a line. -/
inductive Break where
  | crlf | lf | cr
  deriving DecidableEq, Repr

def Break.text : Break → List Char
  | .crlf => ['\r', '\n']
  | .lf => ['\n']
  | .cr => ['\r']

/-- A text with no break in it. -/
def Unbroken (content : List Char) : Prop := ∀ c ∈ content, c ≠ '\r' ∧ c ≠ '\n'

/-- A break that stands before the rest of a text. A CR before LF is only a part of one. -/
def Break.Before (b : Break) (rest : List Char) : Prop := b = .cr → rest.head? ≠ some '\n'

/-- A text in lines: those that end with a break, and the last one. -/
structure Division where
  ended : List (List Char × Break)
  last : List Char
  deriving DecidableEq, Repr

namespace Division

/-- The contents of the lines, without their breaks. -/
def contents (d : Division) : List (List Char) := d.ended.map (·.1) ++ [d.last]

/-- What stands before a line: the contents of the lines before it, each with its break. -/
def before (d : Division) (i : Nat) : List Char :=
  (d.ended.take i).flatMap fun (content, b) => content ++ b.text

/-- All contents and breaks, in order. -/
def text (d : Division) : List Char := d.before d.ended.length ++ d.last

/-- The lines of a text from left to right. Each goes on up to the first break. -/
inductive Divides : Division → List Char → Prop
  | last {content : List Char} : Unbroken content → Divides ⟨[], content⟩ content
  | ended {content rest last : List Char} {b : Break} {lines : List (List Char × Break)} :
      Unbroken content → b.Before rest → Divides ⟨lines, last⟩ rest →
      Divides ⟨(content, b) :: lines, last⟩ (content ++ (b.text ++ rest))

/-! ## The one division of a text -/

/-- The first line of a text goes on to its end, or up to a break. -/
theorem first_line (s : List Char) :
    Unbroken s ∨ ∃ content b rest, Unbroken content ∧ Break.Before b rest ∧ s = content ++ (b.text ++ rest) := by
  induction s with
  | nil => exact .inl (by simp [Unbroken])
  | cons c s ih =>
    have hnil : Unbroken [] := by simp [Unbroken]
    by_cases hcr : c = '\r'
    · subst hcr
      by_cases hlf : s.head? = some '\n'
      · obtain ⟨rest, rfl⟩ := List.head?_eq_some_iff.1 hlf
        exact .inr ⟨[], .crlf, rest, hnil, (fun h => nomatch h), rfl⟩
      · exact .inr ⟨[], .cr, s, hnil, fun _ => hlf, rfl⟩
    · by_cases hlf : c = '\n'
      · subst hlf
        exact .inr ⟨[], .lf, s, hnil, (fun h => nomatch h), rfl⟩
      · rcases ih with hs | ⟨content, b, rest, hcontent, hb, rfl⟩
        · exact .inl (List.forall_mem_cons.2 ⟨⟨hcr, hlf⟩, hs⟩)
        · exact .inr ⟨c :: content, b, rest, List.forall_mem_cons.2 ⟨⟨hcr, hlf⟩, hcontent⟩, hb, rfl⟩

theorem exists_divides (s : List Char) : ∃ d, Divides d s := by
  rcases first_line s with hs | ⟨content, b, rest, hcontent, hb, rfl⟩
  · exact ⟨_, .last hs⟩
  · obtain ⟨d, hd⟩ := exists_divides rest
    exact ⟨_, .ended hcontent hb hd⟩
termination_by s.length
decreasing_by
  have hb : 0 < b.text.length := by cases b <;> decide
  simp only [*, List.length_append]
  omega

/-- The content of the first line is what stands before the first character of a break. -/
theorem takeWhile_unbroken {content : List Char} (h : Unbroken content) (b : Break) (rest : List Char) :
    (content ++ (b.text ++ rest)).takeWhile (fun c => c ≠ '\r' ∧ c ≠ '\n') = content := by
  rw [List.takeWhile_append_of_pos (by simpa [Unbroken] using h)]
  cases b <;> simp [Break.text]

/-- The first break of a text, and what follows it, are determined. -/
theorem break_unique {b b' : Break} {rest rest' : List Char} (hb : b.Before rest) (hb' : b'.Before rest')
    (h : b.text ++ rest = b'.text ++ rest') : b = b' ∧ rest = rest' := by
  cases b <;> cases b' <;> grind [Break.text, Break.Before]

theorem Divides.unique {d d' : Division} {s : List Char} (h : Divides d s) (h' : Divides d' s) : d = d' := by
  induction h generalizing d' with
  | @last content hcontent =>
    cases h' with
    | last _ => rfl
    | @ended content' rest last b lines _ _ _ =>
      -- the break would be in the content
      have hmem := fun c hc => hcontent c (List.mem_append_right content' (List.mem_append_left rest hc))
      cases b <;> simp [Break.text] at hmem
  | @ended content rest last b lines hcontent hb _ ih =>
    generalize hs : content ++ (b.text ++ rest) = s at h'
    cases h' with
    | last hs' =>
      have hmem := fun c hc => hs' c (hs ▸ List.mem_append_right content (List.mem_append_left rest hc))
      cases b <;> simp [Break.text] at hmem
    | @ended content' rest' last' b' lines' hcontent' hb' hrest' =>
      have hsame : content = content' := by
        rw [← takeWhile_unbroken hcontent b rest, hs, takeWhile_unbroken hcontent' b' rest']
      subst hsame
      obtain ⟨rfl, rfl⟩ := break_unique hb hb' (List.append_cancel_left hs)
      cases ih hrest'
      rfl

/-! ## The table of a divided text -/

theorem linesFrom_unbroken_append {content : List Char} (h : Unbroken content) (start here : Nat)
    (rest : List Char) :
    linesFrom start here (content ++ rest) = linesFrom start (here + unitLength content) rest := by
  induction content generalizing here with
  | nil => rfl
  | cons c content ih =>
    obtain ⟨⟨hcr, hlf⟩, hcontent⟩ := List.forall_mem_cons.1 h
    rw [List.cons_append, linesFrom, if_neg (by simp [hcr, hlf]), ih hcontent, unitLength_cons, Nat.add_assoc]
    exact fun _ hc => absurd hc hcr

theorem linesFrom_break_append {b : Break} {rest : List Char} (hb : b.Before rest) (start here : Nat) :
    linesFrom start here (b.text ++ rest) =
      ⟨start, here⟩ :: linesFrom (here + unitLength b.text) (here + unitLength b.text) rest := by
  cases b with
  | crlf => rfl
  | lf =>
    rw [Break.text, List.singleton_append, linesFrom]
    · rfl
    · exact fun _ hc => nomatch hc
  | cr =>
    rw [Break.text, List.singleton_append, linesFrom]
    · rfl
    · rintro t - rfl
      exact hb rfl rfl

theorem length_contents (d : Division) : d.contents.length = d.ended.length + 1 := by
  simp [contents]

/-- The lines of a divided text begin behind what stands before them, and end with their contents. -/
theorem getElem?_linesFrom {d : Division} {s : List Char} (h : Divides d s) (here i : Nat) :
    (linesFrom here here s)[i]? = d.contents[i]?.map fun content =>
      ⟨here + unitLength (d.before i), here + unitLength (d.before i) + unitLength content⟩ := by
  induction h generalizing here i with
  | @last content hcontent =>
    have hlines : linesFrom here here content = [⟨here, here + unitLength content⟩] := by
      simpa [linesFrom] using linesFrom_unbroken_append hcontent here here []
    rw [hlines]
    cases i <;> simp [contents, before]
  | @ended content rest last b lines hcontent hb _ ih =>
    rw [linesFrom_unbroken_append hcontent, linesFrom_break_append hb]
    cases i with
    | zero => simp [contents, before]
    | succ i =>
      have hbefore : unitLength (before ⟨(content, b) :: lines, last⟩ (i + 1)) =
          unitLength content + unitLength b.text + unitLength (before ⟨lines, last⟩ i) := by
        simp [before, unitLength_append, Nat.add_assoc]
      rw [List.getElem?_cons_succ, ih, hbefore]
      simp only [contents, List.map_cons, List.cons_append, List.getElem?_cons_succ, Nat.add_assoc]

/-- The table of a text says of each line of a division where it begins, which is behind all that stands
before it, and where its content ends. So the lines follow each other from one end of the text to the other,
and between two of them there is a break of one unit or two. -/
structure Tabulates (d : Division) (s : Snapshot) : Prop where
  count : s.lineCount = d.ended.length + 1
  placed : ∀ i line, s.lines[i]? = some line → ∃ content, d.contents[i]? = some content ∧
    line.start = unitLength (d.before i) ∧ line.stop = line.start + unitLength content
  first : s.lines.head?.map (·.start) = some 0
  forward : ∀ line ∈ s.lines, line.start ≤ line.stop
  breaks : ∀ i line next, s.lines[i]? = some line → s.lines[i + 1]? = some next →
    next.start = line.stop + 1 ∨ next.start = line.stop + 2
  last : s.lines.getLast?.map (·.stop) = some s.length
  unbroken : ∀ content ∈ d.contents, Unbroken content
  whole : d.text = s.text

variable {d : Division} {s : List Char}

theorem Divides.unbroken (h : Divides d s) : ∀ content ∈ d.contents, Unbroken content := by
  induction h with
  | last hcontent => simpa [contents] using hcontent
  | ended hcontent _ _ ih => simpa [contents] using ⟨hcontent, by simpa [contents] using ih⟩

theorem Divides.text_eq (h : Divides d s) : d.text = s := by
  induction h with
  | last _ => rfl
  | ended _ _ _ ih =>
    rw [← ih]
    simp [text, before]

/-- Between the beginnings of two lines there is the content of the first one and its break. -/
theorem unitLength_before_succ {i : Nat} {content : List Char} {b : Break} (h : d.ended[i]? = some (content, b)) :
    unitLength (d.before (i + 1)) = unitLength (d.before i) + unitLength content + unitLength b.text := by
  rw [before, List.take_add_one, h]
  simp [before, unitLength_append, Nat.add_assoc]

theorem Divides.lines_eq {s : Snapshot} (h : Divides d s.text) :
    s.lines = d.contents.mapIdx fun i content =>
      ⟨unitLength (d.before i), unitLength (d.before i) + unitLength content⟩ := by
  refine List.ext_getElem? fun i => ?_
  rw [List.getElem?_mapIdx, Snapshot.lines, getElem?_linesFrom h]
  simp only [Nat.zero_add]

theorem Divides.tabulates {s : Snapshot} (h : Divides d s.text) : d.Tabulates s := by
  have hlines := h.lines_eq
  have hcount : s.lineCount = d.ended.length + 1 := by
    rw [Snapshot.lineCount, hlines, List.length_mapIdx, length_contents]
  have hplaced (i : Nat) (line : Line) (hline : s.lines[i]? = some line) :
      ∃ content, d.contents[i]? = some content ∧ line.start = unitLength (d.before i) ∧
        line.stop = line.start + unitLength content := by
    rw [hlines, List.getElem?_mapIdx] at hline
    obtain ⟨content, hcontent, rfl⟩ := Option.map_eq_some_iff.1 hline
    exact ⟨content, hcontent, rfl, rfl⟩
  refine ⟨hcount, hplaced, ?_, ?_, ?_, ?_, h.unbroken, h.text_eq⟩
  · have hpos := s.lineCount_pos
    obtain ⟨line, hline⟩ : ∃ line, s.lines[0]? = some line := ⟨_, List.getElem?_eq_getElem hpos⟩
    obtain ⟨content, -, hstart, -⟩ := hplaced 0 line hline
    rw [List.head?_eq_getElem?, hline, Option.map_some, hstart]
    rfl
  · intro line hline
    obtain ⟨i, hi⟩ := List.mem_iff_getElem?.1 hline
    obtain ⟨content, -, -, hstop⟩ := hplaced i line hi
    omega
  · intro i line next hline hnext
    obtain ⟨content, hcontent, hstart, hstop⟩ := hplaced i line hline
    obtain ⟨-, -, hnextStart, -⟩ := hplaced (i + 1) next hnext
    have hi : i < d.ended.length := by
      have := (List.getElem?_eq_some_iff.1 hnext).1
      rw [Snapshot.lineCount] at hcount
      omega
    obtain ⟨⟨content', b⟩, hended⟩ : ∃ entry, d.ended[i]? = some entry := ⟨_, List.getElem?_eq_getElem hi⟩
    have hsame : content' = content := by
      rw [contents, List.getElem?_append_left (by simpa using hi), List.getElem?_map, hended] at hcontent
      simpa using hcontent
    rw [unitLength_before_succ hended, hsame] at hnextStart
    have hbreak : unitLength b.text = 1 ∨ unitLength b.text = 2 := by cases b <;> decide
    omega
  · have hlast : s.lines.getLast? = some ⟨unitLength (d.before d.ended.length),
        unitLength (d.before d.ended.length) + unitLength d.last⟩ := by
      rw [List.getLast?_eq_getElem?, hlines, List.length_mapIdx, length_contents, List.getElem?_mapIdx]
      simp [contents]
    rw [hlast, Option.map_some, Snapshot.length, ← h.text_eq, text, unitLength_append]

end Division

/-- The lines of a text are those of its one division, from left to right, by CR LF, else LF, else CR. -/
theorem lines_of_division (s : Snapshot) :
    ∃ d : Division, (∀ d' : Division, d'.Divides s.text ↔ d' = d) ∧ d.Tabulates s := by
  obtain ⟨d, hd⟩ := Division.exists_divides s.text
  refine ⟨d, fun d' => ⟨fun hd' => hd'.unique hd, ?_⟩, hd.tabulates⟩
  rintro rfl
  exact hd

example : (⟨"\r\r\n\n😀\r".toList⟩ : Snapshot).lines = [⟨0, 0⟩, ⟨1, 1⟩, ⟨3, 3⟩, ⟨4, 6⟩, ⟨7, 7⟩] := by decide

end LintBridge.Text
