-- SUMMARY: Sequences and lists of attempts that may fail.
import Mathlib.Data.List.Forall2

/-!
# Results

When a sequence of attempts, or an attempt for each item of a list, succeeds as a whole.
-/

namespace LintBridge

variable {ε ε' α β γ : Type}

theorem bind_eq_ok_iff {x : Except ε α} {f : α → Except ε β} {b : β} :
    (x >>= f) = .ok b ↔ ∃ a, x = .ok a ∧ f a = .ok b := by
  cases x with
  | error e => simp [bind, Except.bind]
  | ok a => simp [bind, Except.bind]

theorem bind_eq_error_iff {x : Except ε α} {f : α → Except ε β} {e : ε} :
    (x >>= f) = .error e ↔ x = .error e ∨ ∃ a, x = .ok a ∧ f a = .error e := by
  cases x with
  | error e' => simp [bind, Except.bind]
  | ok a => simp [bind, Except.bind]

theorem guard_bind_eq_some_iff {p : Prop} [Decidable p] {next : Unit → Option α} {a : α} :
    ((guard p : Option Unit) >>= next) = some a ↔ p ∧ next () = some a := by
  by_cases hp : p <;> simp [guard, hp]

theorem toOption_eq_some_iff {x : Except ε α} {a : α} : x.toOption = some a ↔ x = .ok a := by
  cases x with
  | error e => simp [Except.toOption]
  | ok a => simp [Except.toOption]

theorem mapError_eq_ok_iff {x : Except ε α} {f : ε → ε'} {a : α} : x.mapError f = .ok a ↔ x = .ok a := by
  cases x with
  | error e =>
    constructor
    · intro h
      cases h
    · intro h
      cases h
  | ok a =>
    constructor
    · intro h
      cases h
      rfl
    · intro h
      cases h
      rfl

theorem mapM_cons_eq_ok_iff {f : α → Except ε β} {a : α} {as : List α} {bs : List β} :
    (a :: as).mapM f = .ok bs ↔ ∃ b bs', f a = .ok b ∧ as.mapM f = .ok bs' ∧ bs = b :: bs' := by
  rw [List.mapM_cons, bind_eq_ok_iff]
  simp only [bind_eq_ok_iff, pure, Except.pure, Except.ok.injEq]
  grind

/-- A list of attempts gives the result of each, in order. -/
theorem mapM_eq_ok_iff {f : α → Except ε β} {as : List α} {bs : List β} :
    as.mapM f = .ok bs ↔ List.Forall₂ (fun a b => f a = .ok b) as bs := by
  induction as generalizing bs with
  | nil => simp [pure, Except.pure, eq_comm]
  | cons a as ih => simp only [mapM_cons_eq_ok_iff, List.forall₂_cons_left_iff, ih]

/-- A list of attempts succeeds when each of them does. -/
theorem mapM_isOk {f : α → Except ε β} {as : List α} (h : ∀ a ∈ as, ∃ b, f a = .ok b) :
    ∃ bs, as.mapM f = .ok bs := by
  induction as with
  | nil => exact ⟨[], rfl⟩
  | cons a as ih =>
    rw [List.forall_mem_cons] at h
    obtain ⟨⟨b, hb⟩, hrest⟩ := h
    obtain ⟨bs, hbs⟩ := ih hrest
    exact ⟨b :: bs, mapM_cons_eq_ok_iff.2 ⟨b, bs, hb, hbs, rfl⟩⟩

/-- A list of attempts ends with the first error. -/
theorem mapM_eq_error_iff {f : α → Except ε β} {as : List α} {e : ε} :
    as.mapM f = .error e ↔ ∃ before a after, as = before ++ a :: after ∧
      (∀ b ∈ before, ∃ c, f b = .ok c) ∧ f a = .error e := by
  constructor
  · intro h
    induction as with
    | nil => cases h
    | cons a as ih =>
      cases ha : f a with
      | error e' =>
        rw [List.mapM_cons, ha] at h
        cases h
        exact ⟨[], a, as, rfl, by simp, ha⟩
      | ok b =>
        cases has : as.mapM f with
        | ok bs =>
          rw [mapM_cons_eq_ok_iff.2 ⟨b, bs, ha, has, rfl⟩] at h
          cases h
        | error e' =>
          rw [List.mapM_cons, ha, has] at h
          cases h
          obtain ⟨before, a', after, rfl, hbefore, ha'⟩ := ih has
          exact ⟨a :: before, a', after, rfl, List.forall_mem_cons.2 ⟨⟨b, ha⟩, hbefore⟩, ha'⟩
  · rintro ⟨before, a, after, rfl, hbefore, ha⟩
    induction before with
    | nil => rw [List.nil_append, List.mapM_cons, ha]; rfl
    | cons b before ih =>
      rw [List.forall_mem_cons] at hbefore
      obtain ⟨⟨c, hc⟩, hrest⟩ := hbefore
      rw [List.cons_append, List.mapM_cons, hc, ih hrest]
      rfl

/-- What holds of each result of a list of attempts holds of all of them. -/
theorem map_eq_of_mapM {f : α → Except ε β} {g : β → γ} {h : α → γ} (hf : ∀ a b, f a = .ok b → g b = h a)
    {as : List α} {bs : List β} (hbs : as.mapM f = .ok bs) : bs.map g = as.map h := by
  induction as generalizing bs with
  | nil => cases hbs; rfl
  | cons a as ih =>
    obtain ⟨b, bs', hb, hbs', rfl⟩ := mapM_cons_eq_ok_iff.1 hbs
    rw [List.map_cons, List.map_cons, hf a b hb, ih hbs']

end LintBridge
