-- SUMMARY: The questions that a run asks, in order.
import LintBridge.Proofs.Routine.RunOn

/-!
# Questions of a run

Which questions a run asks depends on the answers, and so on the state in which it starts. The questions of
a sequence are those of its first part, followed by those of the part that comes after it.
-/

namespace LintBridge

variable {α β ε ε' : Type} {P : Query → Prop}

/-- What a question shows to the user or to the client. The log is no part of that. -/
def Query.shown? : Query → Option Event
  | .publish uri diagnostics => some (.published uri diagnostics)
  | .report message => some (.reported message)
  | .tell kind message => some (.told kind message)
  | .print stream text => some (.printed stream text)
  | _ => none

/-! ## Routines -/

namespace Routine

/-- The questions that a run asks when its steps follow each other. -/
def asked : Routine α → State → List Query
  | .done _, _ => []
  | .ask q next, s => q :: (next (q.answer s).1).asked (q.answer s).2

@[simp] theorem asked_pure (a : α) (s : State) : (pure a : Routine α).asked s = [] := rfl

@[simp] theorem asked_step (q : Query) (s : State) : (step q).asked s = [q] := rfl

@[simp] theorem asked_bind (r : Routine α) (f : α → Routine β) (s : State) :
    (r >>= f).asked s = r.asked s ++ (f (r.run s).1).asked (r.run s).2 := by
  change (r.andThen f).asked s = _
  induction r generalizing s with
  | done a => rfl
  | ask q next ih => exact congrArg (q :: ·) (ih _ _)

/-- A run asks such questions only as its routine may ask. -/
theorem Asks.asked {r : Routine α} (h : r.Asks P) (s : State) : ∀ q ∈ r.asked s, P q := by
  induction r generalizing s with
  | done a => simp [Routine.asked]
  | ask q next ih =>
    intro q' hq'
    rcases List.mem_cons.1 hq' with rfl | hq'
    · exact h.1
    · exact ih _ (h.2 _) _ q' hq'

/-! ## What is shown -/

/-- What a run shows, in order. -/
def shown (r : Routine α) (s : State) : List Event := (r.asked s).filterMap Query.shown?

@[simp] theorem shown_bind (r : Routine α) (f : α → Routine β) (s : State) :
    (r >>= f).shown s = r.shown s ++ (f (r.run s).1).shown (r.run s).2 := by
  simp [shown]

/-- A question that shows nothing. -/
theorem Asks.shown_eq_nil {r : Routine α} (h : r.Asks (Query.shown? · = none)) (s : State) :
    r.shown s = [] := List.filterMap_eq_nil_iff.2 (h.asked s)

end Routine

/-! ## Routines that may fail -/

namespace Attempt

/-- The questions that a run of a routine that may fail asks. -/
def asked (r : Attempt ε α) (s : State) : List Query := Routine.asked r.run s

@[simp] theorem asked_pure (a : α) (s : State) : (pure a : Attempt ε α).asked s = [] := rfl

@[simp] theorem asked_ofExcept (r : Except ε α) (s : State) : (ofExcept r).asked s = [] := rfl

@[simp] theorem asked_attempt (r : Routine α) (s : State) :
    (r.attempt : Attempt ε α).asked s = r.asked s := by
  change (r >>= fun a => pure (Except.ok a : Except ε α)).asked s = _
  rw [Routine.asked_bind]
  exact List.append_nil _

@[simp] theorem asked_step (q : Query) (s : State) : (step q : Attempt ε q.Answer).asked s = [q] :=
  asked_attempt (Routine.step q) s

theorem asked_bind_ok {r : Attempt ε α} {f : α → Attempt ε β} {s s' : State} {a : α}
    (h : r.runOn s = (.ok a, s')) : (r >>= f).asked s = r.asked s ++ (f a).asked s' := by
  have h : r.run.run s = (.ok a, s') := h
  change (r.run >>= fun result => _).asked s = _
  rw [Routine.asked_bind, h]
  rfl

theorem asked_platform_bind (f : Platform → Attempt ε β) (s : State) :
    (step .platform >>= f).asked s = .platform :: (f s.host.platform).asked s := by
  rw [asked_bind_ok (runOn_step .platform s), asked_step]
  rfl

theorem asked_bind_error {r : Attempt ε α} {f : α → Attempt ε β} {s s' : State} {e : ε}
    (h : r.runOn s = (.error e, s')) : (r >>= f).asked s = r.asked s := by
  have h : r.run.run s = (.error e, s') := h
  change (r.run >>= fun result => _).asked s = _
  rw [Routine.asked_bind, h]
  exact List.append_nil _

theorem asked_bind_ofExcept (r : Attempt ε α) (f : α → Except ε β) (s : State) :
    (r >>= fun a => ofExcept (f a)).asked s = r.asked s := by
  cases h : r.runOn s with
  | mk result s' =>
    cases result with
    | ok a => rw [asked_bind_ok h, asked_ofExcept, List.append_nil]
    | error e => exact asked_bind_error h

@[simp] theorem asked_mapError (f : ε → ε') (r : Attempt ε α) (s : State) :
    (r.mapError f).asked s = r.asked s := by
  change (r.run >>= fun result => pure (result.mapError f)).asked s = _
  rw [Routine.asked_bind]
  exact List.append_nil _

theorem Asks.asked {r : Attempt ε α} (h : r.Asks P) (s : State) : ∀ q ∈ r.asked s, P q :=
  Routine.Asks.asked h s

/-- What a run of a routine that may fail shows, in order. -/
def shown (r : Attempt ε α) (s : State) : List Event := Routine.shown r.run s

@[simp] theorem shown_attempt (r : Routine α) (s : State) :
    (r.attempt : Attempt ε α).shown s = r.shown s :=
  congrArg (List.filterMap Query.shown?) (asked_attempt (ε := ε) r s)

theorem shown_bind_ok {r : Attempt ε α} {f : α → Attempt ε β} {s s' : State} {a : α}
    (h : r.runOn s = (.ok a, s')) : (r >>= f).shown s = r.shown s ++ (f a).shown s' := by
  have hasked : Routine.asked (r >>= f).run s = Routine.asked r.run s ++ Routine.asked (f a).run s' :=
    asked_bind_ok h
  rw [shown, Routine.shown, hasked, List.filterMap_append]
  rfl

/-- What the first part asks is asked by the whole. -/
theorem mem_asked_bind {q : Query} {r : Attempt ε α} {s : State} (f : α → Attempt ε β) (h : q ∈ r.asked s) :
    q ∈ (r >>= f).asked s := by
  change q ∈ (r.run >>= fun result => _).asked s
  rw [Routine.asked_bind]
  exact List.mem_append_left _ h

end Attempt

end LintBridge
