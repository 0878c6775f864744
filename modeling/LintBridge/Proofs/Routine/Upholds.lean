-- SUMMARY: What each step of a routine guarantees while others act between its steps, and what the routine ends with.
import LintBridge.Proofs.Routine.RunOn

/-!
# Guarantees of a routine

Between two steps of a routine others may change the state. If something can be relied on before each
step, whatever the others have done, then each step may be known to change the state in certain ways only,
and the routine to end with certain results only. The rules follow the construction of routines.
-/

namespace LintBridge

variable {α β ε ε' : Type} {A A' : State → Prop} {G G' : State → State → Prop}

/-! ## Routines -/

namespace Routine

/-- As long as `A` holds before each of its steps, a routine changes the state only as `G` says, and ends
with a result that `post` holds of. -/
def Upholds (A : State → Prop) (G : State → State → Prop) (post : α → Prop) : Routine α → Prop
  | .done a => post a
  | .ask q next => ∀ s, A s → G s (q.answer s).2 ∧ (next (q.answer s).1).Upholds A G post

variable {post post' : α → Prop} {post₂ : β → Prop}

theorem upholds_done_iff {a : α} : (done a).Upholds A G post ↔ post a := .rfl

theorem upholds_ask_iff {q : Query} {next : q.Answer → Routine α} :
    (ask q next).Upholds A G post ↔
      ∀ s, A s → G s (q.answer s).2 ∧ (next (q.answer s).1).Upholds A G post := .rfl

theorem upholds_pure {a : α} (h : post a) : (pure a : Routine α).Upholds A G post := h

theorem upholds_step {q : Query} {post : q.Answer → Prop}
    (h : ∀ s, A s → G s (q.answer s).2 ∧ post (q.answer s).1) : (step q).Upholds A G post := h

theorem upholds_step_bind {q : Query} {f : q.Answer → Routine β}
    (h : ∀ s, A s → G s (q.answer s).2 ∧ (f (q.answer s).1).Upholds A G post₂) :
    (step q >>= f).Upholds A G post₂ := h

theorem upholds_bind {r : Routine α} {f : α → Routine β} (hr : r.Upholds A G post)
    (hf : ∀ a, post a → (f a).Upholds A G post₂) : (r >>= f).Upholds A G post₂ := by
  change (r.andThen f).Upholds A G post₂
  induction r with
  | done a => exact hf a hr
  | ask q next ih =>
    intro s hs
    obtain ⟨hstep, hnext⟩ := hr s hs
    exact ⟨hstep, ih _ hnext⟩

theorem Upholds.mono {r : Routine α} (h : r.Upholds A G post) (hA : ∀ s, A' s → A s)
    (hG : ∀ s s', A' s → G s s' → G' s s') (hpost : ∀ a, post a → post' a) : r.Upholds A' G' post' := by
  induction r with
  | done a => exact hpost a h
  | ask q next ih =>
    intro s hs
    obtain ⟨hstep, hnext⟩ := h s (hA s hs)
    exact ⟨hG _ _ hs hstep, ih _ hnext⟩

/-- When nobody acts between its steps, a routine ends as it does in company. -/
theorem Upholds.run {r : Routine α} (h : r.Upholds A G post) (hkeep : ∀ s s', A s → G s s' → A s') {s : State}
    (hs : A s) : post (r.run s).1 ∧ A (r.run s).2 := by
  induction r generalizing s with
  | done a => exact ⟨h, hs⟩
  | ask q next ih =>
    obtain ⟨hstep, hnext⟩ := h s hs
    exact ih _ hnext (hkeep _ _ hs hstep)

/-- What every question of a routine guarantees, the routine guarantees. -/
theorem Asks.upholds {P : Query → Prop} {r : Routine α} (h : r.Asks P)
    (hstep : ∀ q s, P q → A s → G s (q.answer s).2) : r.Upholds A G fun _ => True := by
  induction r with
  | done a => trivial
  | ask q next ih => exact fun s hs => ⟨hstep q s h.1 hs, ih _ (h.2 _)⟩

end Routine

/-! ## Routines that may fail -/

namespace Attempt

/-- As long as `A` holds before each of its steps, a routine that may fail changes the state only as `G`
says, and ends with a result that `post` holds of. -/
def Upholds (A : State → Prop) (G : State → State → Prop) (post : Except ε α → Prop) (r : Attempt ε α) :
    Prop := Routine.Upholds A G post r.run

variable {post : Except ε α → Prop} {post₂ : Except ε β → Prop}

theorem upholds_pure {a : α} (h : post (.ok a)) : (pure a : Attempt ε α).Upholds A G post := h

theorem upholds_throw {e : ε} (h : post (.error e)) : (throw e : Attempt ε α).Upholds A G post := h

theorem upholds_attempt {r : Routine α} (h : r.Upholds A G fun a => post (.ok a)) :
    (r.attempt : Attempt ε α).Upholds A G post := Routine.upholds_bind h fun _ ha => ha

theorem upholds_step {q : Query} {post : Except ε q.Answer → Prop}
    (h : ∀ s, A s → G s (q.answer s).2 ∧ post (.ok (q.answer s).1)) :
    (step q : Attempt ε q.Answer).Upholds A G post := upholds_attempt (Routine.upholds_step h)

theorem upholds_step_bind {q : Query} {f : q.Answer → Attempt ε β}
    (h : ∀ s, A s → G s (q.answer s).2 ∧ (f (q.answer s).1).Upholds A G post₂) :
    (step q >>= f).Upholds A G post₂ := h

theorem upholds_bind {r : Attempt ε α} {f : α → Attempt ε β} (hr : r.Upholds A G post)
    (hok : ∀ a, post (.ok a) → (f a).Upholds A G post₂) (herror : ∀ e, post (.error e) → post₂ (.error e)) :
    (r >>= f).Upholds A G post₂ := by
  refine Routine.upholds_bind hr fun result hresult => ?_
  cases result with
  | ok a => exact hok a hresult
  | error e => exact herror e hresult

/-- A routine as the first part goes on with whatever it ends with. -/
theorem upholds_attempt_bind {r : Routine α} {f : α → Attempt ε β} {post : α → Prop}
    (hr : r.Upholds A G post) (hf : ∀ a, post a → (f a).Upholds A G post₂) :
    ((r.attempt : Attempt ε α) >>= f).Upholds A G post₂ := by
  refine Routine.upholds_bind (Routine.upholds_bind hr fun a ha => ?_) fun result hresult => hresult
  exact hf a ha

end Attempt

-- the rules are enough, and unfolding whole routines is slow
attribute [irreducible] Routine.Upholds

end LintBridge
