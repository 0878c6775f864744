-- SUMMARY: A request says which action it is for, whatever library it names.
import LintBridge.Bridge.Request
import Mathlib.Tactic.SplitIfs

/-!
# Actions of requests

The input of a bridge program names the library first and the action next. Strings are printed so that their
end can be told without knowing them: the first quote that no backslash escapes. So the text of a request
determines its action.
-/

namespace LintBridge

namespace Json

/-- What follows a printed string, seen from within it. -/
def afterString : List Char → List Char
  | [] => []
  | '"' :: rest => rest
  | '\\' :: _ :: rest => afterString rest
  | _ :: rest => afterString rest

/-- A character that neither ends a string nor begins an escape. -/
def IsPlain (c : Char) : Prop := c ≠ '"' ∧ c ≠ '\\'

theorem afterString_plain {c : Char} (h : IsPlain c) (rest : List Char) :
    afterString (c :: rest) = afterString rest := by
  obtain ⟨hquote, hbackslash⟩ := h
  cases rest with
  | nil => simp [afterString]
  | cons next rest => simp [afterString, hbackslash]

theorem afterString_plains {s : List Char} (h : ∀ c ∈ s, IsPlain c) (rest : List Char) :
    afterString (s ++ rest) = afterString rest := by
  induction s with
  | nil => rfl
  | cons c s ih =>
    obtain ⟨hc, hs⟩ := List.forall_mem_cons.1 h
    exact (afterString_plain hc _).trans (ih hs)

theorem isPlain_lower (count n : Nat) : ∀ c ∈ Hex.lower count n, IsPlain c := by
  induction count generalizing n with
  | zero => simp [Hex.lower]
  | succ count ih =>
    intro c hc
    rcases List.mem_append.1 hc with hc | hc
    · exact ih _ c hc
    · have hdigit : ∀ d < 16, Nat.digitChar d ≠ '"' ∧ Nat.digitChar d ≠ '\\' := by decide
      rw [List.mem_singleton.1 hc]
      exact hdigit _ (Nat.mod_lt n (by decide))

theorem afterString_unitEscapes (us : List Nat) (rest : List Char) :
    afterString (us.flatMap unitEscape ++ rest) = afterString rest := by
  induction us with
  | nil => rfl
  | cons u us ih =>
    simp only [List.flatMap_cons, unitEscape, List.cons_append, List.append_assoc, afterString]
    rw [afterString_plains (isPlain_lower 4 u), ih]

/-- A printed character is passed over. -/
theorem afterString_printChar (c : Char) (rest : List Char) :
    afterString (printChar c ++ rest) = afterString rest := by
  unfold printChar
  split_ifs with hquote hbackslash
  next => rfl
  next => rfl
  -- the short escapes
  iterate 5 next => rfl
  next => exact afterString_plain ⟨hquote, hbackslash⟩ rest
  next => exact afterString_unitEscapes _ rest

theorem afterString_printCode (c : Text.Code) (rest : List Char) :
    afterString (printCode c ++ rest) = afterString rest := by
  cases c with
  | char c => exact afterString_printChar c rest
  | lone u => simpa [printCode] using afterString_unitEscapes [u.unit] rest

/-- The end of a printed string is where it was closed. -/
theorem afterString_printed (s : Text.Codes) (rest : List Char) :
    afterString (s.flatMap printCode ++ '"' :: rest) = rest := by
  induction s with
  | nil => rfl
  | cons c s ih =>
    simp only [List.flatMap_cons, List.append_assoc]
    rw [afterString_printCode, ih]

end Json

namespace Bridge

open Json Library

/-- What a request begins with. -/
def requestStart : List Char := '\x7b' :: (printString "library" ++ [':', ' ', '"'])

theorem print_request (handle : Handle) (action : Action) (details : Members) :
    print (request handle action details) = requestStart ++ ((Text.Codes.ofString handle.path.text).flatMap printCode ++
      '"' :: printMembers (("action", .text action.name) :: details)) := by
  simp only [request, requestStart, print, printString, printMembers, List.cons_append, List.append_assoc,
    List.nil_append]

/-- What follows the library in the text of a request. -/
def afterLibrary (text : List Char) : List Char := afterString (text.drop requestStart.length)

theorem afterLibrary_request (handle : Handle) (action : Action) (details : Members) :
    afterLibrary (print (request handle action details)) =
      printMembers (("action", .text action.name) :: details) := by
  rw [afterLibrary, print_request, List.drop_left, afterString_printed]

/-- Requests of one text are for one action. -/
theorem action_eq_of_request {handle handle' : Handle} {action action' : Action} {details details' : Members}
    (h : (request handle action details).toJson = (request handle' action' details').toJson) :
    action = action' := by
  have h : print (request handle action details) = print (request handle' action' details') :=
    String.ofList_injective h
  have hafter := congrArg afterLibrary h
  rw [afterLibrary_request, afterLibrary_request] at hafter
  cases action with
  | lint =>
    cases action' with
    | lint => rfl
    | loadConfiguration => simp [printMembers, print, printString, printChar, Action.name] at hafter
  | loadConfiguration =>
    cases action' with
    | lint => simp [printMembers, print, printString, printChar, Action.name] at hafter
    | loadConfiguration => rfl

/-- A child process is given a request for an action. -/
def Carries (action : Action) (call : Command.Call) : Prop :=
  ∃ handle details, call.input = some (request handle action details).toJson

/-- A child process is given a request for one action only. -/
theorem Carries.action_eq {action action' : Action} {call : Command.Call} (h : Carries action call)
    (h' : Carries action' call) : action = action' := by
  obtain ⟨handle, details, hinput⟩ := h
  obtain ⟨handle', details', hinput'⟩ := h'
  exact action_eq_of_request (Option.some.inj (hinput.symm.trans hinput'))

end Bridge

end LintBridge
