-- SUMMARY: What the tasks of a pool guarantee together, along all runs of the pool.
import LintBridge.Proofs.Routine.Upholds
import LintBridge.Routine.Pool
import Mathlib.Data.List.Infix

/-!
# Runs of pools

If each task of a pool upholds a guarantee as long as it can rely on something, and what it relies on is
kept by the guarantees of all and by what happens outside, then every run of the pool keeps it, and each
task ends with a result that its guarantee promises.
-/

namespace LintBridge.Pool

variable {c : Calls} {outside outside' : Surroundings c} {during during' : State → Prop} {p p' : Pool c}

/-! ## Moves -/

theorem advance_of_ask {i : Nat} {call : c.Call} {q : Query} {next : q.Answer → Routine (c.Result call)}
    (h : p.tasks[i]? = some ⟨call, .ask q next⟩) :
    p.advance i =
      { state := (q.answer p.state).2, tasks := p.tasks.set i ⟨call, next (q.answer p.state).1⟩ } := by
  simp [advance, h]

/-- A task makes a step, or the pool stays as it is. -/
theorem advance_cases (p : Pool c) (i : Nat) :
    (∃ call q next, p.tasks[i]? = some ⟨call, .ask q next⟩) ∨ p.advance i = p := by
  cases htask : p.tasks[i]? with
  | none => exact .inr (by simp [advance, htask])
  | some task =>
    obtain ⟨call, rest⟩ := task
    cases rest with
    | done result => exact .inr (by simp [advance, htask])
    | ask q next => exact .inl ⟨call, q, next, rfl⟩

theorem tasks_receive (p : Pool c) (s : State) (calls : List c.Call) {i : Nat} {task : Task c}
    (h : (p.receive s calls).tasks[i]? = some task) :
    p.tasks[i]? = some task ∨ p.tasks.length ≤ i ∧ ∃ call ∈ calls, task = .ofCall call := by
  by_cases hi : i < p.tasks.length
  · rw [receive, List.getElem?_append_left hi] at h
    exact .inl h
  · rw [receive, List.getElem?_append_right (Nat.le_of_not_lt hi)] at h
    obtain ⟨call, hcall, rfl⟩ := List.mem_map.1 (List.mem_of_getElem? h)
    exact .inr ⟨Nat.le_of_not_lt hi, call, hcall, rfl⟩

theorem getElem?_receive_single (p : Pool c) (s : State) (call : c.Call) :
    (p.receive s [call]).tasks[p.tasks.length]? = some (.ofCall call) := by
  simp [receive]

/-- The calls of a pool, in the order in which they were started. -/
def calls (p : Pool c) : List c.Call := p.tasks.map (·.call)

@[simp] theorem calls_advance (p : Pool c) (i : Nat) : (p.advance i).calls = p.calls := by
  rcases p.advance_cases i with ⟨call, q, next, htask⟩ | hsame
  · have hcall : p.calls[i]? = some call := by simp [calls, htask]
    obtain ⟨hi, hget⟩ := List.getElem?_eq_some_iff.1 hcall
    rw [advance_of_ask htask, calls, List.map_set]
    change p.calls.set i call = p.calls
    rw [← hget, List.set_getElem_self]
  · rw [hsame]

@[simp] theorem calls_advances (p : Pool c) (order : List Nat) : (p.advances order).calls = p.calls := by
  induction order generalizing p with
  | nil => rfl
  | cons i rest ih => exact (ih (p.advance i)).trans (p.calls_advance i)

@[simp] theorem calls_receive (p : Pool c) (s : State) (calls : List c.Call) :
    (p.receive s calls).calls = p.calls ++ calls := by
  simp [Pool.calls, receive, Task.ofCall, Function.comp_def]

/-- Calls that were started stay, and new ones come after them. -/
theorem Step.calls (h : Step outside p p') : p.calls <+: p'.calls := by
  cases h with
  | advance i => simp
  | receive _ => simp

theorem Runs.calls (h : Runs outside during p p') : p.calls <+: p'.calls := by
  induction h with
  | refl => exact List.prefix_rfl
  | tail _ hstep _ ih => exact ih.trans hstep.calls

theorem Runs.trans {p'' : Pool c} (h : Runs outside during p p') (h' : Runs outside during p' p'') :
    Runs outside during p p'' := by
  induction h' with
  | refl => exact h
  | tail _ hstep hduring ih => exact .tail ih hstep hduring

theorem reaches_advances (p : Pool c) (order : List Nat) : Reaches outside p (p.advances order) := by
  induction order generalizing p with
  | nil => exact .refl
  | cons i rest ih => exact .trans (.tail .refl (.advance i) trivial) (ih (p.advance i))

theorem Runs.mono (h : Runs outside during p p') (houtside : ∀ q s calls, outside q s calls → outside' q s calls)
    (hduring : ∀ s, during s → during' s) : Runs outside' during' p p' := by
  induction h with
  | refl => exact .refl
  | tail _ hstep hq ih =>
    refine .tail ih ?_ (hduring _ hq)
    cases hstep with
    | advance i => exact .advance i
    | receive h => exact .receive (houtside _ _ _ h)

/-- The calls that are started in a run are among those that the pool has at its end. -/
theorem Runs.among (h : Runs outside during p p') :
    Runs (fun q s calls => outside q s calls ∧ ∀ call ∈ calls, call ∈ p'.calls.drop p.tasks.length)
      during p p' := by
  induction h with
  | refl => exact .refl
  | @tail q r hrun hstep hduring ih =>
    have hmore : ∀ call ∈ q.calls.drop p.tasks.length, call ∈ r.calls.drop p.tasks.length :=
      fun call hcall => (hstep.calls.drop p.tasks.length).subset hcall
    refine .tail (ih.mono (fun q s calls h => ⟨h.1, fun call hcall => hmore _ (h.2 call hcall)⟩) fun _ h => h)
      ?_ hduring
    cases hstep with
    | advance i => exact .advance i
    | @receive s calls h =>
      refine .receive ⟨h, fun call hcall => ?_⟩
      have hlength : p.tasks.length ≤ q.calls.length := by
        simpa [Pool.calls] using hrun.calls.length_le
      rw [calls_receive, List.drop_append_of_le_length hlength]
      exact List.mem_append_right _ hcall

/-- A run to a state of some kind has entered states of that kind for the last time, or has been in them
from the beginning. -/
theorem Runs.last_entry {R : State → Prop} (h : Runs outside during p p') (hend : R p'.state) :
    (R p.state ∧ Runs outside R p p') ∨
      ∃ q r, Runs outside during p q ∧ ¬ R q.state ∧ Step outside q r ∧ R r.state ∧ Runs outside R r p' := by
  induction h with
  | refl => exact .inl ⟨hend, .refl⟩
  | @tail q r hrun hstep _ ih =>
    by_cases hq : R q.state
    · rcases ih hq with ⟨hp, hruns⟩ | ⟨q₀, r₀, hbefore, hnot, hentry, hr, hruns⟩
      · exact .inl ⟨hp, .tail hruns hstep hend⟩
      · exact .inr ⟨q₀, r₀, hbefore, hnot, hentry, hr, .tail hruns hstep hend⟩
    · exact .inr ⟨q, r, hrun, hq, hstep, hend, .refl⟩

/-! ## Questions of a run -/

/-- Every run asks some questions on its way. -/
theorem exists_plays (h : Reaches outside p p') : ∃ questions, Plays outside p questions p' := by
  induction h with
  | refl => exact ⟨[], .refl⟩
  | @tail q r _ hstep _ ih =>
    obtain ⟨questions, hplays⟩ := ih
    cases hstep with
    | advance i =>
      rcases q.advance_cases i with ⟨call, query, next, hi⟩ | hsame
      · exact ⟨_, hplays.advance hi⟩
      · exact ⟨questions, hsame.symm ▸ hplays⟩
    | receive h => exact ⟨questions, hplays.receive h⟩

/-! ## Guarantees -/

section Upholds

variable {A A' Good : State → Prop} {G G' : State → State → Prop} {meant meant' : Nat → c.Call → Prop}
  {post post' : Nat → (call : c.Call) → c.Result call → Prop}

/-- The tasks that are meant, by their number and call, uphold a guarantee. -/
def Upholds (A : State → Prop) (G : State → State → Prop) (meant : Nat → c.Call → Prop)
    (post : Nat → (call : c.Call) → c.Result call → Prop) (p : Pool c) : Prop :=
  ∀ i task, p.tasks[i]? = some task → meant i task.call → task.rest.Upholds A G (post i task.call)

/-- Without tasks there is nothing to uphold. -/
theorem upholds_begin (s : State) : (⟨s, []⟩ : Pool c).Upholds A G meant post := by
  intro i task htask
  cases htask

/-- New calls uphold the guarantee, and what can be relied on is kept. -/
structure Keeps (outside : Surroundings c) (during A : State → Prop) (G : State → State → Prop)
    (meant : Nat → c.Call → Prop) (post : Nat → (call : c.Call) → c.Result call → Prop) : Prop where
  calls : ∀ q s calls, outside q s calls → q.Upholds A G meant post → ∀ call ∈ calls, ∀ i,
    q.tasks.length ≤ i → meant i call → (c.routine call).Upholds A G (post i call)
  states : ∀ q r, Step outside q r → q.Upholds A G meant post → A q.state → during r.state → A r.state

theorem Upholds.mono (h : p.Upholds A G meant post) (hA : ∀ s, A' s → A s)
    (hG : ∀ s s', A' s → G s s' → G' s s')
    (hpost : ∀ i task, p.tasks[i]? = some task → meant' i task.call →
      meant i task.call ∧ ∀ result, post i task.call result → post' i task.call result) :
    p.Upholds A' G' meant' post' := by
  intro i task htask hmeant
  obtain ⟨hmeant, hresult⟩ := hpost i task htask hmeant
  exact (h i task htask hmeant).mono hA hG hresult

theorem Upholds.advance (h : p.Upholds A G meant post) (hA : A p.state) (i : Nat) :
    (p.advance i).Upholds A G meant post := by
  intro j task htask hmeant
  rcases p.advance_cases i with ⟨call, q, next, hi⟩ | hsame
  · rw [advance_of_ask hi] at htask
    by_cases hij : i = j
    · subst hij
      obtain ⟨hlt, -⟩ := List.getElem?_eq_some_iff.1 hi
      rw [List.getElem?_set_self hlt, Option.some.injEq] at htask
      subst htask
      exact (Routine.upholds_ask_iff.1 (h i _ hi hmeant) p.state hA).2
    · rw [List.getElem?_set_ne hij] at htask
      exact h j task htask hmeant
  · rw [hsame] at htask
    exact h j task htask hmeant

theorem Upholds.step (hkeeps : Keeps outside during A G meant post) (hstep : Step outside p p')
    (h : p.Upholds A G meant post) (hA : A p.state) : p'.Upholds A G meant post := by
  cases hstep with
  | advance i => exact h.advance hA i
  | @receive s calls houtside =>
    intro j task htask hmeant
    rcases p.tasks_receive s calls htask with hold | ⟨hj, call, hcall, rfl⟩
    · exact h j task hold hmeant
    · exact hkeeps.calls p s calls houtside h call hcall j hj hmeant

/-- Along a run the guarantees are upheld, and what can be relied on is kept. -/
theorem Upholds.runs (hkeeps : Keeps outside during A G meant post) (hrun : Runs outside during p p')
    (h : p.Upholds A G meant post) (hA : A p.state) : p'.Upholds A G meant post ∧ A p'.state := by
  induction hrun with
  | refl => exact ⟨h, hA⟩
  | tail _ hstep hduring ih =>
    obtain ⟨hq, hAq⟩ := ih
    exact ⟨hq.step hkeeps hstep hAq, hkeeps.states _ _ hstep hq hAq hduring⟩

/-- What can be relied on is kept at every move of a run. -/
theorem Upholds.confined (hkeeps : Keeps outside during A G meant post) (hrun : Runs outside during p p')
    (h : p.Upholds A G meant post) (hA : A p.state) : Runs outside A p p' := by
  induction hrun with
  | refl => exact .refl
  | tail hrun hstep hduring ih =>
    obtain ⟨-, hAr⟩ := h.runs hkeeps (.tail hrun hstep hduring) hA
    exact .tail ih hstep hAr

/-- When all tasks uphold a guarantee, a move changes the state as it says, or it is a change from
outside. -/
theorem Upholds.state_cases (hstep : Step outside p p') (h : p.Upholds A G (fun _ _ => True) post)
    (hA : A p.state) :
    p'.state = p.state ∨ G p.state p'.state ∨ ∃ calls, outside p p'.state calls := by
  cases hstep with
  | advance i =>
    rcases p.advance_cases i with ⟨call, q, next, hi⟩ | hsame
    · rw [advance_of_ask hi]
      exact .inr (.inl (Routine.upholds_ask_iff.1 (h i _ hi trivial) p.state hA).1)
    · rw [hsame]
      exact .inl rfl
  | @receive s calls houtside => exact .inr (.inr ⟨calls, houtside⟩)

/-- What all tasks keep, and what happens outside keeps, a move keeps. -/
theorem Upholds.good_step (hgood : ∀ s s', A s → G s s' → Good s → Good s')
    (hout : ∀ q s calls, outside q s calls → A q.state → Good q.state → Good s)
    (hstep : Step outside p p') (h : p.Upholds A G (fun _ _ => True) post) (hA : A p.state)
    (hp : Good p.state) : Good p'.state := by
  rcases h.state_cases hstep hA with hsame | hG | ⟨calls, houtside⟩
  · exact hsame ▸ hp
  · exact hgood _ _ hA hG hp
  · exact hout _ _ _ houtside hA hp

/-- What all tasks keep, and what happens outside keeps, a run keeps. -/
theorem Upholds.good_runs (hkeeps : Keeps outside during A G (fun _ _ => True) post)
    (hgood : ∀ s s', A s → G s s' → Good s → Good s')
    (hout : ∀ q s calls, outside q s calls → A q.state → Good q.state → Good s)
    (hrun : Runs outside during p p') (h : p.Upholds A G (fun _ _ => True) post) (hA : A p.state)
    (hp : Good p.state) : Good p'.state := by
  induction hrun with
  | refl => exact hp
  | tail hrun hstep _ ih =>
    obtain ⟨hr, hAr⟩ := h.runs hkeeps hrun hA
    exact hr.good_step hgood hout hstep hAr ih

/-- What the first step of a task brings about, and all tasks then keep, holds when the task has made its
first step. -/
theorem Upholds.brings (hkeeps : Keeps outside during A G (fun _ _ => True) post)
    (hgood : ∀ s s', A s → G s s' → Good s → Good s')
    (hout : ∀ q s calls, outside q s calls → A q.state → Good q.state → Good s)
    {i : Nat} {call : c.Call} {q : Query} {next : q.Answer → Routine (c.Result call)}
    (hfirst : ∀ s, A s → Good (q.answer s).2) (hrun : Runs outside during p p')
    (h : p.Upholds A G (fun _ _ => True) post) (hA : A p.state)
    (htask : p.tasks[i]? = some ⟨call, .ask q next⟩) :
    p'.tasks[i]? = some ⟨call, .ask q next⟩ ∨ Good p'.state := by
  induction hrun with
  | refl => exact .inl htask
  | @tail r r' hrun hstep hduring ih =>
    obtain ⟨hr, hAr⟩ := h.runs hkeeps hrun hA
    rcases ih with hwaits | hr'
    · cases hstep with
      | advance j =>
        rcases r.advance_cases j with ⟨call', q', next', hj⟩ | hsame
        · by_cases hij : j = i
          · subst hij
            cases hj.symm.trans hwaits
            rw [advance_of_ask hj]
            exact .inr (hfirst r.state hAr)
          · rw [advance_of_ask hj]
            exact .inl (by rw [List.getElem?_set_ne hij, hwaits])
        · rw [hsame]
          exact .inl hwaits
      | receive houtside =>
        obtain ⟨hi, -⟩ := List.getElem?_eq_some_iff.1 hwaits
        exact .inl (by rw [receive, List.getElem?_append_left hi, hwaits])
    · exact .inr (hr.good_step hgood hout hstep hAr hr')

end Upholds

end LintBridge.Pool
