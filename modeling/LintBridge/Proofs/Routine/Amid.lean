-- SUMMARY: Runs of a routine with changes from outside between its steps, and the moments of such runs.
import LintBridge.Proofs.FileTree.Later
import LintBridge.Proofs.Routine.RunOn
import Mathlib.Logic.Relation

/-!
# Runs amid changes

Between two steps of a routine other programs may act. A run then is told by its moments: the questions that
the routine has asked, each with the state in which it was answered. The moments of a sequence are those of
its first part, followed by those of the part that comes after it.
-/

namespace LintBridge

open Relation (ReflTransGen)

variable {α β ε ε' : Type} {outside : State → State → Prop}

/-- A question, with the state in which it is answered. -/
structure Moment where
  state : State
  question : Query

/-! ## Routines -/

namespace Routine

/-- From a state a routine comes to an end in another one, through some moments, while changes from outside
come between its steps. -/
inductive Amid (outside : State → State → Prop) : Routine α → State → List Moment → α → State → Prop
  | done {a s} : Amid outside (.done a) s [] a s
  | step {q next s moments a s'} : Amid outside (next (q.answer s).1) (q.answer s).2 moments a s' →
      Amid outside (.ask q next) s (⟨s, q⟩ :: moments) a s'
  | meanwhile {r s s₁ moments a s'} : outside s s₁ → Amid outside r s₁ moments a s' →
      Amid outside r s moments a s'

theorem amid_pure {a b : α} {s s' : State} {moments : List Moment}
    (h : (pure a : Routine α).Amid outside s moments b s') :
    moments = [] ∧ b = a ∧ ReflTransGen outside s s' := by
  change (Routine.done a).Amid outside s moments b s' at h
  generalize hr : Routine.done a = r at h
  induction h with
  | done =>
    cases hr
    exact ⟨rfl, rfl, .refl⟩
  | step => cases hr
  | meanwhile hchange _ ih =>
    obtain ⟨hmoments, hb, hrest⟩ := ih hr
    exact ⟨hmoments, hb, .head hchange hrest⟩

/-- A question is answered in a state that changes from outside have led to. -/
theorem amid_step {q : Query} {s s' : State} {moments : List Moment} {a : q.Answer}
    (h : (step q).Amid outside s moments a s') :
    ∃ t, moments = [⟨t, q⟩] ∧ a = (q.answer t).1 ∧ ReflTransGen outside s t ∧
      ReflTransGen outside (q.answer t).2 s' := by
  generalize hr : step q = r at h
  induction h with
  | done => cases hr
  | @step q' next s moments a s' h =>
    cases hr
    obtain ⟨rfl, rfl, hrest⟩ := amid_pure h
    exact ⟨s, rfl, rfl, .refl, hrest⟩
  | meanwhile hchange _ ih =>
    obtain ⟨t, hmoments, ha, hbefore, hafter⟩ := ih hr
    exact ⟨t, hmoments, ha, .head hchange hbefore, hafter⟩

/-- A sequence goes through the moments of its first part, and then through those of the rest. -/
theorem amid_bind {r : Routine α} {f : α → Routine β} {s s'' : State} {moments : List Moment} {b : β}
    (h : (r >>= f).Amid outside s moments b s'') :
    ∃ first rest a s', moments = first ++ rest ∧ r.Amid outside s first a s' ∧
      (f a).Amid outside s' rest b s'' := by
  change (r.andThen f).Amid outside s moments b s'' at h
  generalize hwhole : r.andThen f = whole at h
  induction h generalizing r with
  | @done b s =>
    cases r with
    | done a =>
      have hwhole : f a = .done b := hwhole
      exact ⟨[], [], a, s, rfl, .done, hwhole ▸ .done⟩
    | ask q next => cases hwhole
  | @step q next s moments b s'' h ih =>
    cases r with
    | done a =>
      have hwhole : f a = .ask q next := hwhole
      exact ⟨[], _, a, s, rfl, .done, hwhole ▸ .step h⟩
    | ask q next =>
      cases hwhole
      obtain ⟨first, rest, a, s', rfl, hfirst, hrest⟩ := ih rfl
      exact ⟨_, rest, a, s', rfl, .step hfirst, hrest⟩
  | meanwhile hchange _ ih =>
    obtain ⟨first, rest, a, s', rfl, hfirst, hrest⟩ := ih hwhole
    exact ⟨first, rest, a, s', rfl, .meanwhile hchange hfirst, hrest⟩

/-- What happens outside before the beginning belongs to the run. -/
theorem Amid.head {r : Routine α} {s s₁ s' : State} {moments : List Moment} {a : α}
    (hbefore : ReflTransGen outside s s₁) (h : r.Amid outside s₁ moments a s') :
    r.Amid outside s moments a s' := by
  induction hbefore using ReflTransGen.head_induction_on with
  | refl => exact h
  | head hchange _ ih => exact .meanwhile hchange ih

/-- What happens outside after the end belongs to the run. -/
theorem Amid.tail {r : Routine α} {s s₁ s' : State} {moments : List Moment} {a : α}
    (h : r.Amid outside s moments a s₁) (hafter : ReflTransGen outside s₁ s') :
    r.Amid outside s moments a s' := by
  induction h with
  | done => exact .head hafter .done
  | step _ ih => exact .step (ih hafter)
  | meanwhile hchange _ ih => exact .meanwhile hchange (ih hafter)

/-- Such a run keeps what each question of the routine and each change from outside keeps. -/
theorem Asks.amid {P : Query → Prop} {I : State → State → Prop} (hrefl : ∀ s, I s s)
    (htrans : ∀ s s' s'', I s s' → I s' s'' → I s s'') (hstep : ∀ q s, P q → I s (q.answer s).2)
    (houtside : ∀ s s', outside s s' → I s s') {r : Routine α} (hr : r.Asks P) {s s' : State}
    {moments : List Moment} {a : α} (h : r.Amid outside s moments a s') : I s s' := by
  induction h with
  | done => exact hrefl _
  | step _ ih => exact htrans _ _ _ (hstep _ _ hr.1) (ih (hr.2 _))
  | meanwhile hchange _ ih => exact htrans _ _ _ (houtside _ _ hchange) (ih hr)

/-- The moments of a run that nothing comes between. -/
def moments : Routine α → State → List Moment
  | .done _, _ => []
  | .ask q next, s => ⟨s, q⟩ :: (next (q.answer s).1).moments (q.answer s).2

theorem amid_run (outside : State → State → Prop) (r : Routine α) (s : State) :
    r.Amid outside s (r.moments s) (r.run s).1 (r.run s).2 := by
  induction r generalizing s with
  | done a => exact .done
  | ask q next ih => exact .step (ih (q.answer s).1 (q.answer s).2)

/-- The moments of the first steps of a run, what is left of its routine, and the state then. -/
def forward : Nat → Routine α → State → List Moment × Routine α × State
  | 0, r, s => ([], r, s)
  | _ + 1, .done a, s => ([], .done a, s)
  | n + 1, .ask q next, s =>
    let (moments, rest, s') := (next (q.answer s).1).forward n (q.answer s).2
    (⟨s, q⟩ :: moments, rest, s')

/-- Something comes between the first steps of a run and what is left of it. -/
theorem amid_forward {n : Nat} {r : Routine α} {s s' : State} {later : List Moment} {a : α}
    {front : List Moment × Routine α × State} (hfront : r.forward n s = front)
    (h : front.2.1.Amid outside front.2.2 later a s') : r.Amid outside s (front.1 ++ later) a s' := by
  subst hfront
  induction n generalizing r s with
  | zero => exact h
  | succ n ih =>
    cases r with
    | done a => exact h
    | ask q next => exact .step (ih h)

end Routine

/-! ## Routines that may fail -/

namespace Attempt

/-- From a state a routine that may fail comes to an end in another one, through some moments, while changes
from outside come between its steps. -/
def Amid (outside : State → State → Prop) (r : Attempt ε α) (s : State) (moments : List Moment)
    (result : Except ε α) (s' : State) : Prop := Routine.Amid outside r.run s moments result s'

variable {s s' s'' : State} {moments : List Moment}

theorem amid_pure {a : α} {result : Except ε α} (h : (pure a : Attempt ε α).Amid outside s moments result s') :
    moments = [] ∧ result = .ok a ∧ ReflTransGen outside s s' := Routine.amid_pure h

theorem amid_throw {e : ε} {result : Except ε α}
    (h : (throw e : Attempt ε α).Amid outside s moments result s') :
    moments = [] ∧ result = .error e ∧ ReflTransGen outside s s' := Routine.amid_pure h

theorem amid_ofExcept {r result : Except ε α} (h : (ofExcept r).Amid outside s moments result s') :
    moments = [] ∧ result = r ∧ ReflTransGen outside s s' := Routine.amid_pure h

/-- A sequence ends with the error of its first part, or goes on to the rest. -/
theorem amid_bind {r : Attempt ε α} {f : α → Attempt ε β} {result : Except ε β}
    (h : (r >>= f).Amid outside s moments result s'') :
    (∃ e, result = .error e ∧ r.Amid outside s moments (.error e) s'') ∨
      ∃ first rest a s', moments = first ++ rest ∧ r.Amid outside s first (.ok a) s' ∧
        (f a).Amid outside s' rest result s'' := by
  obtain ⟨first, rest, tried, s', rfl, hfirst, hrest⟩ := Routine.amid_bind h
  cases tried with
  | ok a => exact .inr ⟨first, rest, a, s', rfl, hfirst, hrest⟩
  | error e =>
    obtain ⟨rfl, rfl, hlater⟩ := Routine.amid_pure hrest
    rw [List.append_nil]
    exact .inl ⟨e, rfl, hfirst.tail hlater⟩

/-- A routine as the first part goes on with whatever it ends with. -/
theorem amid_bind_attempt {r : Routine α} {f : α → Attempt ε β} {result : Except ε β}
    (h : ((r.attempt : Attempt ε α) >>= f).Amid outside s moments result s'') :
    ∃ first rest a s', moments = first ++ rest ∧ r.Amid outside s first a s' ∧
      (f a).Amid outside s' rest result s'' := by
  obtain ⟨first, rest, tried, s', rfl, hfirst, hrest⟩ := Routine.amid_bind h
  obtain ⟨before, after, a, s₁, rfl, hbefore, hafter⟩ := Routine.amid_bind hfirst
  obtain ⟨rfl, rfl, hlater⟩ := Routine.amid_pure hafter
  refine ⟨before, rest, a, s', ?_, hbefore.tail hlater, hrest⟩
  rw [List.append_nil]

/-- The rest goes on with the answer that a question has in a state that changes from outside have led to. -/
theorem amid_bind_step {q : Query} {f : q.Answer → Attempt ε β} {result : Except ε β}
    (h : ((step q : Attempt ε q.Answer) >>= f).Amid outside s moments result s'') :
    ∃ t rest, moments = ⟨t, q⟩ :: rest ∧ ReflTransGen outside s t ∧
      (f (q.answer t).1).Amid outside (q.answer t).2 rest result s'' := by
  obtain ⟨first, rest, a, s', rfl, hstep, hrest⟩ := amid_bind_attempt h
  obtain ⟨t, rfl, rfl, hbefore, hafter⟩ := Routine.amid_step hstep
  exact ⟨t, rest, rfl, hbefore, Routine.Amid.head hafter hrest⟩

/-- A sequence that ends with a fixed result has no other one. -/
theorem amid_attempt_pure {r : Routine Unit} {b : β} {result : Except ε β}
    (h : (do r.attempt; pure b : Attempt ε β).Amid outside s moments result s') : result = .ok b := by
  obtain ⟨_, _, _, _, -, -, hend⟩ := amid_bind_attempt h
  exact (amid_pure hend).2.1

end Attempt

end LintBridge
