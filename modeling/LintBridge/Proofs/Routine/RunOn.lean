-- SUMMARY: Runs of routines that may fail, part by part: what they give, raise, and leave of the files.
import LintBridge.Proofs.FileTree.Content
import LintBridge.Proofs.Routine.Asks

/-!
# Runs of parts

A routine that may fail goes on with what its first part gives, or ends with the error of that part, so
it raises the errors of its parts. As long as it writes no file, the contents of all files stay.
-/

namespace LintBridge

variable {α β ε ε' : Type}

/-! ## Parts -/

namespace Attempt

@[simp] theorem runOn_pure (a : α) (s : State) : (pure a : Attempt ε α).runOn s = (.ok a, s) := rfl

@[simp] theorem runOn_throw (e : ε) (s : State) : (throw e : Attempt ε α).runOn s = (.error e, s) := rfl

@[simp] theorem runOn_ofExcept (r : Except ε α) (s : State) : (ofExcept r).runOn s = (r, s) := rfl

@[simp] theorem runOn_attempt (r : Routine α) (s : State) :
    (r.attempt : Attempt ε α).runOn s = (.ok (r.run s).1, (r.run s).2) := by
  change (r >>= fun a => pure (Except.ok a : Except ε α)).run s = _
  rw [Routine.run_bind]
  rfl

@[simp] theorem runOn_step (q : Query) (s : State) :
    (step q : Attempt ε q.Answer).runOn s = (.ok (q.answer s).1, (q.answer s).2) :=
  runOn_attempt (Routine.step q) s

theorem runOn_bind (r : Attempt ε α) (f : α → Attempt ε β) (s : State) :
    (r >>= f).runOn s =
      match r.runOn s with
      | (.ok a, s) => (f a).runOn s
      | (.error e, s) => (.error e, s) := by
  change (r.run >>= fun result => _).run s = _
  rw [Routine.run_bind]
  change _ = match r.run.run s with | (.ok a, s) => _ | (.error e, s) => _
  cases r.run.run s with
  | mk result s' =>
    cases result with
    | ok a => rfl
    | error e => rfl

@[simp] theorem runOn_map (f : α → β) (r : Attempt ε α) (s : State) :
    (f <$> r).runOn s = ((r.runOn s).1.map f, (r.runOn s).2) := by
  rw [← bind_pure_comp, runOn_bind]
  cases r.runOn s with
  | mk result s' =>
    cases result with
    | ok a => rfl
    | error e => rfl

theorem runOn_bind_ok {r : Attempt ε α} {f : α → Attempt ε β} {s s' : State} {a : α}
    (h : r.runOn s = (.ok a, s')) : (r >>= f).runOn s = (f a).runOn s' := by
  rw [runOn_bind, h]

theorem runOn_bind_error {r : Attempt ε α} {f : α → Attempt ε β} {s s' : State} {e : ε}
    (h : r.runOn s = (.error e, s')) : (r >>= f).runOn s = (.error e, s') := by
  rw [runOn_bind, h]

@[simp] theorem runOn_mapError (f : ε → ε') (r : Attempt ε α) (s : State) :
    (r.mapError f).runOn s = ((r.runOn s).1.mapError f, (r.runOn s).2) := by
  change (r.run >>= fun result => pure (result.mapError f)).run s = _
  rw [Routine.run_bind]
  rfl

theorem runOn_bind_eq_ok_iff {r : Attempt ε α} {f : α → Attempt ε β} {s s'' : State} {b : β} :
    (r >>= f).runOn s = (.ok b, s'') ↔
      ∃ a s', r.runOn s = (.ok a, s') ∧ (f a).runOn s' = (.ok b, s'') := by
  rw [runOn_bind]
  cases r.runOn s with
  | mk result s' =>
    cases result with
    | ok a => simp
    | error e => simp

theorem runOn_bind_eq_error_iff {r : Attempt ε α} {f : α → Attempt ε β} {s : State} {e : ε} :
    ((r >>= f).runOn s).1 = .error e ↔
      (r.runOn s).1 = .error e ∨ ∃ a s', r.runOn s = (.ok a, s') ∧ ((f a).runOn s').1 = .error e := by
  rw [runOn_bind]
  cases r.runOn s with
  | mk result s' =>
    cases result with
    | ok a => simp
    | error e => simp

/-- A last part that takes no step only turns what was given into something else. -/
theorem runOn_bind_ofExcept {r : Attempt ε α} {s s' : State} {result : Except ε α}
    (h : r.runOn s = (result, s')) (f : α → Except ε β) :
    (r >>= fun a => ofExcept (f a)).runOn s = (result >>= f, s') := by
  rw [runOn_bind, h]
  cases result with
  | ok a => rfl
  | error e => rfl

/-- A step goes on with its answer. -/
theorem runOn_step_bind (q : Query) (f : q.Answer → Attempt ε β) (s : State) :
    (step q >>= f).runOn s = (f (q.answer s).1).runOn (q.answer s).2 := runOn_bind_ok (runOn_step q s)

theorem runOn_platform_bind (f : Platform → Attempt ε β) (s : State) :
    (step .platform >>= f).runOn s = (f s.host.platform).runOn s := runOn_step_bind .platform f s

/-- What a routine that may fail comes to is the answer of it as a whole. -/
theorem runOn_bind_attempt {r : Attempt ε α} {f : Except ε α → Attempt ε β} {s s' : State}
    {result : Except ε α} (h : r.runOn s = (result, s')) :
    (r.run.attempt >>= f).runOn s = (f result).runOn s' := by
  have h : r.run.run s = (result, s') := h
  rw [runOn_bind, runOn_attempt, h]

/-! ## Errors -/

/-- Whatever the state is, an error that a routine ends with is of some kind. -/
def Raises (E : ε → Prop) (r : Attempt ε α) : Prop := ∀ s e, (r.runOn s).1 = .error e → E e

variable {E : ε → Prop}

theorem raises_pure (a : α) : (pure a : Attempt ε α).Raises E := fun _ _ h => nomatch h

theorem raises_throw {e : ε} (h : E e) : (throw e : Attempt ε α).Raises E := by
  rintro s e ⟨⟩
  exact h

theorem raises_ofExcept {r : Except ε α} (h : ∀ e, r = .error e → E e) : (ofExcept r).Raises E :=
  fun _ e he => h e he

theorem raises_attempt (r : Routine α) : (r.attempt : Attempt ε α).Raises E := by
  intro s e h
  rw [runOn_attempt] at h
  cases h

theorem raises_step (q : Query) : (step q : Attempt ε q.Answer).Raises E := raises_attempt (Routine.step q)

theorem raises_bind {r : Attempt ε α} {f : α → Attempt ε β} (hr : r.Raises E) (hf : ∀ a, (f a).Raises E) :
    (r >>= f).Raises E := by
  intro s e h
  cases hrun : r.runOn s with
  | mk result s' =>
    cases result with
    | ok a =>
      rw [runOn_bind_ok hrun] at h
      exact hf a s' e h
    | error e' =>
      rw [runOn_bind_error hrun] at h
      cases h
      exact hr s e (congrArg Prod.fst hrun)

/-- Errors put in other words. -/
theorem raises_mapError {f : ε' → ε} {r : Attempt ε' α} (h : ∀ e, E (f e)) : (r.mapError f).Raises E := by
  intro s e he
  change ((r.run >>= fun result => pure (result.mapError f)).run s).1 = _ at he
  rw [Routine.run_bind] at he
  change ((r.run.run s).1).mapError f = _ at he
  cases hresult : (r.run.run s).1 with
  | ok a =>
    rw [hresult] at he
    cases he
  | error e' =>
    rw [hresult] at he
    cases he
    exact h e'

end Attempt

/-! ## Files -/

/-- A question that leaves the content of all files. -/
def Query.KeepsFiles : Query → Prop
  | .write .. => False
  | _ => True

theorem State.host_log (s : State) (record : Log.Record) : (s.log record).host = s.host :=
  State.log_keeps (I := fun s s' => s'.host = s.host) (fun _ => rfl) (fun _ _ _ h h' => h'.trans h)
    (fun _ _ => rfl) (fun _ _ => rfl) (fun _ _ => rfl) s record

/-- A step that writes no file leaves the contents of all files. -/
theorem Query.sameContents_answer {q : Query} (hq : q.KeepsFiles) (s : State) :
    s.host.files.SameContents (q.answer s).2.host.files := by
  cases q with
  | write p content => exact hq.elim
  | start call =>
    simp only [Query.answer, Host.start]
    split
    next p _ => exact FileTree.sameContents_touch _ p
    next => exact .refl _
  | log record =>
    rw [Query.answer, State.host_log]
    exact .refl _
  | restart settings =>
    rw [Query.answer, State.host_apply]
    exact .refl _
  | _ => exact .refl _

/-- A routine that writes no file leaves the contents of all files. -/
theorem Routine.Asks.sameContents {r : Routine α} (h : r.Asks Query.KeepsFiles) (s : State) :
    s.host.files.SameContents (r.run s).2.host.files :=
  h.run (I := fun s s' => s.host.files.SameContents s'.host.files) (fun _ => .refl _)
    (fun _ _ _ => .trans) (fun _ s hq => Query.sameContents_answer hq s) s

end LintBridge
