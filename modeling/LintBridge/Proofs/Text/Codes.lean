-- SUMMARY: Which texts of code points have bytes, and which.
import LintBridge.Text.Codes

/-!
# Bytes of code points

A text of code points has bytes if all of them are characters, and these are the bytes of the characters.
Otherwise the first surrogate in it is at fault.
-/

namespace LintBridge.Text.Codes

variable {s : Codes} {before : Nat}

theorem encodeFrom_ofChars (before : Nat) (t : List Char) :
    encodeFrom before (ofChars t) = .ok (Utf8.encode t) := by
  induction t generalizing before with
  | nil => rfl
  | cons c rest ih =>
    rw [ofChars_cons, encodeFrom, ih]
    rfl

@[simp] theorem encode_ofChars (t : List Char) : (ofChars t).encode = .ok (Utf8.encode t) :=
  encodeFrom_ofChars 0 t

/-- A text is all characters up to its end, or up to its first surrogate. -/
theorem whole_or_lone (s : Codes) : s.Whole ∨ ∃ t u rest, s = ofChars t ++ .lone u :: rest := by
  induction s with
  | nil => exact .inl ⟨[], rfl⟩
  | cons c rest ih =>
    cases c with
    | lone u => exact .inr ⟨[], u, rest, rfl⟩
    | char c =>
      rcases ih with ⟨t, rfl⟩ | ⟨t, u, after, rfl⟩
      · exact .inl ⟨c :: t, rfl⟩
      · exact .inr ⟨c :: t, u, after, rfl⟩

theorem encodeFrom_lone (before : Nat) (t : List Char) (u : Surrogate) (rest : Codes) :
    encodeFrom before (ofChars t ++ .lone u :: rest) =
      .error ⟨before + t.length, u, 1 + (rest.takeWhile Code.isLone).length⟩ := by
  induction t generalizing before with
  | nil => rfl
  | cons c t ih =>
    rw [ofChars_cons, List.cons_append, encodeFrom, ih, List.length_cons, Nat.add_right_comm, Nat.add_assoc]
    rfl

/-- The surrogate at fault is the first one, and the fault counts the characters before it. -/
theorem encode_lone (t : List Char) (u : Surrogate) (rest : Codes) :
    (ofChars t ++ .lone u :: rest).encode =
      .error ⟨t.length, u, 1 + (rest.takeWhile Code.isLone).length⟩ := by
  rw [encode, encodeFrom_lone, Nat.zero_add]

end LintBridge.Text.Codes
