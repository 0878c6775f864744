-- SUMMARY: Histories of calls that run one after the other, while the host changes between them.
import LintBridge.Proofs.Routine.Asked
import LintBridge.Routine.Pool

/-!
# Histories

In a history each call has come to its end before the next one starts. Between two of them the files, the
child processes and the open documents change in any way; what the service remembers and what was shown
stays.
-/

namespace LintBridge

/-- A call of a history, with the state in which it starts. -/
structure Turn (c : Calls) where
  call : c.Call
  before : State

namespace Turn

variable {c : Calls}

/-- What the call comes to. -/
def result (turn : Turn c) : c.Result turn.call := ((c.routine turn.call).run turn.before).1

/-- The state in which the call ends. -/
def after (turn : Turn c) : State := ((c.routine turn.call).run turn.before).2

/-- The questions that the call asks. -/
def asked (turn : Turn c) : List Query := (c.routine turn.call).asked turn.before

end Turn

/-- Nothing has changed but the host and the open documents. -/
def State.SameService (s s' : State) : Prop := ∃ host documents, s' = { s with host, documents }

/-- The calls made so far from a first state, the latest first, and the state after them. -/
inductive History (c : Calls) (first : State) : List (Turn c) → State → Prop
  | start : History c first [] first
  | next {past : List (Turn c)} {now : State} {turn : Turn c} :
      History c first past now → now.SameService turn.before → History c first (turn :: past) turn.after

/-- Calls made one after the other, the latest first, each on a host and with open documents of its own. -/
def playOn (c : Calls) (first : State) : List (c.Call × Host × DocumentTable) → List (Turn c) × State
  | [] => ([], first)
  | (call, host, documents) :: past =>
    let played := playOn c first past
    let turn : Turn c := ⟨call, { played.2 with host, documents }⟩
    (turn :: played.1, turn.after)

theorem history_playOn (c : Calls) (first : State) (script : List (c.Call × Host × DocumentTable)) :
    History c first (playOn c first script).1 (playOn c first script).2 := by
  induction script with
  | nil => exact .start
  | cons entry past ih =>
    obtain ⟨call, host, documents⟩ := entry
    exact .next ih ⟨host, documents, rfl⟩

end LintBridge
