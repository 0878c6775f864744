-- SUMMARY: The questions that a routine may ask, and what its runs keep because of that.
import LintBridge.Routine.Run

/-!
# Questions of a routine

A routine asks only certain questions when each of its steps does, whatever the answers are. What each
of those questions keeps is kept by a whole run.
-/

namespace LintBridge

variable {α β γ ε ε' : Type} {P Q : Query → Prop}

/-! ## Routines -/

namespace Routine

/-- Whatever the answers are, all questions of a routine are of some kind. -/
def Asks (P : Query → Prop) : Routine α → Prop
  | .done _ => True
  | .ask q next => P q ∧ ∀ answer, (next answer).Asks P

theorem asks_pure (a : α) : (pure a : Routine α).Asks P := trivial

theorem asks_step {q : Query} (h : P q) : (step q).Asks P := ⟨h, fun _ => trivial⟩

theorem asks_bind {r : Routine α} {f : α → Routine β} (hr : r.Asks P) (hf : ∀ a, (f a).Asks P) :
    (r >>= f).Asks P := by
  change (r.andThen f).Asks P
  induction r with
  | done a => exact hf a
  | ask q next ih => exact ⟨hr.1, fun answer => ih answer (hr.2 answer)⟩

theorem Asks.mono {r : Routine α} (h : ∀ q, P q → Q q) (hr : r.Asks P) : r.Asks Q := by
  induction r with
  | done a => trivial
  | ask q next ih => exact ⟨h q hr.1, fun answer => ih answer (hr.2 answer)⟩

/-- A run keeps what every question of the routine keeps. -/
theorem Asks.run {I : State → State → Prop} (hrefl : ∀ s, I s s)
    (htrans : ∀ s s' s'', I s s' → I s' s'' → I s s'') (hstep : ∀ q s, P q → I s (q.answer s).2)
    {r : Routine α} (hr : r.Asks P) (s : State) : I s (r.run s).2 := by
  induction r generalizing s with
  | done a => exact hrefl s
  | ask q next ih =>
    exact htrans s (q.answer s).2 _ (hstep q s hr.1) (ih (q.answer s).1 (hr.2 _) (q.answer s).2)

/-- A record that is logged is one that the client has not been told of. -/
theorem asks_logged {level : Log.Level} {part message : String}
    (h : ∀ record : Log.Record, record.told = false → P (.log record)) :
    (logged level part message).Asks P := asks_step (h _ rfl)

end Routine

/-- Logging keeps what its events keep. -/
theorem State.log_keeps {I : State → State → Prop} (hrefl : ∀ s, I s s)
    (htrans : ∀ s s' s'', I s s' → I s' s'' → I s s'')
    (hlogged : ∀ s record, I s (s.emit (.logged record)))
    (htold : ∀ s message, I s (s.emit (.told .log message)))
    (hprinted : ∀ s text, I s (s.emit (.printed .err text))) (s : State) (record : Log.Record) :
    I s (s.log record) := by
  have hevents (events : List Event) (h : ∀ e ∈ events, ∀ s, I s (s.emit e)) (s : State) :
      I s (events.foldl State.emit s) := by
    induction events generalizing s with
    | nil => exact hrefl s
    | cons e rest ih =>
      rw [List.forall_mem_cons] at h
      exact htrans _ _ _ (h.1 s) (ih h.2 _)
  refine htrans _ _ _ (hlogged s record) (hevents _ (fun e he => ?_) _)
  rcases List.mem_append.1 he with he | he
  · obtain ⟨line, -, rfl⟩ := List.mem_map.1 he
    exact fun s => hprinted s _
  · obtain ⟨message, -, rfl⟩ := List.mem_map.1 he
    exact fun s => htold s message

/-! ## Routines that may fail -/

namespace Attempt

/-- Whatever the answers are, all questions of a routine that may fail are of some kind. -/
def Asks (P : Query → Prop) (r : Attempt ε α) : Prop := Routine.Asks P r.run

theorem asks_pure (a : α) : (pure a : Attempt ε α).Asks P := trivial

theorem asks_throw (e : ε) : (throw e : Attempt ε α).Asks P := trivial

theorem asks_ofExcept (r : Except ε α) : (ofExcept r).Asks P := trivial

theorem asks_attempt {r : Routine α} (h : r.Asks P) : (r.attempt : Attempt ε α).Asks P :=
  Routine.asks_bind h fun _ => trivial

theorem asks_step {q : Query} (h : P q) : (step q : Attempt ε q.Answer).Asks P :=
  asks_attempt (Routine.asks_step h)

theorem asks_bind {r : Attempt ε α} {f : α → Attempt ε β} (hr : r.Asks P) (hf : ∀ a, (f a).Asks P) :
    (r >>= f).Asks P := by
  refine Routine.asks_bind hr fun result => ?_
  cases result with
  | error e => trivial
  | ok a => exact hf a

theorem asks_mapError {f : ε → ε'} {r : Attempt ε α} (h : r.Asks P) : (r.mapError f).Asks P :=
  Routine.asks_bind h fun _ => trivial

end Attempt

end LintBridge
