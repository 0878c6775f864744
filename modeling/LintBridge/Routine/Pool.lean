-- SUMMARY: Routines that run at the same time on one state, and all the ways in which their steps interleave.
import LintBridge.Routine.Run

/-!
# Pools

Calls that are handled at the same time are the tasks of a pool. A pool goes on in two ways: a task makes
its next step, or something happens outside, which may change the state and start new calls. What may
happen outside is a parameter. The runs of a pool are all sequences of such moves, in any order.
-/

namespace LintBridge

/-- Kinds of calls, with the routine that each of them runs. -/
structure Calls where
  Call : Type
  Result : Call → Type
  routine : (call : Call) → Routine (Result call)

/-- A call with what is left of its routine. -/
structure Task (c : Calls) where
  call : c.Call
  rest : Routine (c.Result call)

/-- The task of a call that has not made a step. -/
def Task.ofCall {c : Calls} (call : c.Call) : Task c := ⟨call, c.routine call⟩

/-- The call of a task has come to its end. -/
def Task.IsDone {c : Calls} (task : Task c) : Prop := ∃ result, task.rest = .done result

instance {c : Calls} : (task : Task c) → Decidable task.IsDone
  | ⟨_, .done result⟩ => .isTrue ⟨result, rfl⟩
  | ⟨_, .ask _ _⟩ => .isFalse fun ⟨_, h⟩ => nomatch h

/-- A state with the tasks that share it, in the order in which they were started. -/
structure Pool (c : Calls) where
  state : State
  tasks : List (Task c) := []

/-- What may happen outside of a pool: the state changes, and calls are started. -/
abbrev Surroundings (c : Calls) := Pool c → State → List c.Call → Prop

namespace Pool

variable {c : Calls}

/-- The pool after something has happened outside. -/
def receive (p : Pool c) (s : State) (calls : List c.Call) : Pool c :=
  { state := s, tasks := p.tasks ++ calls.map .ofCall }

/-- The pool after a task has made a step. A task that is done makes none. -/
def advance (p : Pool c) (i : Nat) : Pool c :=
  match p.tasks[i]? with
  | some ⟨call, .ask q next⟩ =>
    let (answer, state) := q.answer p.state
    { state, tasks := p.tasks.set i ⟨call, next answer⟩ }
  | _ => p

/-- The pool after the given tasks have made a step each, in this order. -/
def advances (p : Pool c) (order : List Nat) : Pool c := order.foldl advance p

/-- One move of a pool. -/
inductive Step (outside : Surroundings c) (p : Pool c) : Pool c → Prop
  | advance (i : Nat) : Step outside p (p.advance i)
  | receive {s : State} {calls : List c.Call} : outside p s calls → Step outside p (p.receive s calls)

/-- Moves of a pool, one after the other, to states of some kind. -/
inductive Runs (outside : Surroundings c) (during : State → Prop) (p : Pool c) : Pool c → Prop
  | refl : Runs outside during p p
  | tail {q r : Pool c} :
      Runs outside during p q → Step outside q r → during r.state → Runs outside during p r

/-- What a pool comes to in whatever order its tasks make their steps. -/
abbrev Reaches (outside : Surroundings c) : Pool c → Pool c → Prop := Runs outside fun _ => True

/-- Moves of a pool, one after the other, with the questions that its tasks ask on the way, in order. -/
inductive Plays (outside : Surroundings c) (p : Pool c) : List Query → Pool c → Prop
  | refl : Plays outside p [] p
  | advance {questions : List Query} {p' : Pool c} {i : Nat} {call : c.Call} {q : Query}
      {next : q.Answer → Routine (c.Result call)} :
      Plays outside p questions p' → p'.tasks[i]? = some ⟨call, .ask q next⟩ →
      Plays outside p (questions ++ [q]) (p'.advance i)
  | receive {questions : List Query} {p' : Pool c} {s : State} {calls : List c.Call} :
      Plays outside p questions p' → outside p' s calls → Plays outside p questions (p'.receive s calls)

end Pool

end LintBridge
