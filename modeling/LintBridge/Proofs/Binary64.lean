-- SUMMARY: The exact value of a binary64 number, and the integers among these values.
import LintBridge.Number.Binary64
import Mathlib.Data.Rat.Cast.Order
import Mathlib.Tactic.NormNum

/-!
# Values of binary64 numbers

A finite number has an exact rational value. The test for an integer gives that value when it is one,
whatever mantissa and exponent it is written with.
-/

namespace LintBridge.Binary64

/-- The exact value of a finite number. -/
def rational? : Binary64 → Option ℚ
  | .finite negative mantissa exponent =>
    let magnitude : ℚ := mantissa * 2 ^ exponent
    some (if negative then -magnitude else magnitude)
  | _ => none

/-- The integer that a magnitude equals, if it is one. -/
def wholeMagnitude? (mantissa : Nat) (exponent : Int) : Option Int :=
  if 0 ≤ exponent then some (mantissa * Nat.pow 2 exponent.toNat : Nat)
  else if mantissa % Nat.pow 2 (-exponent).toNat = 0 then some (mantissa / Nat.pow 2 (-exponent).toNat : Nat)
  else none

theorem wholeMagnitude?_eq_some_iff {mantissa : Nat} {exponent i : Int} :
    wholeMagnitude? mantissa exponent = some i ↔ (mantissa * 2 ^ exponent : ℚ) = i := by
  unfold wholeMagnitude?
  split
  next h =>
    obtain ⟨n, rfl⟩ := Int.eq_ofNat_of_zero_le h
    rw [Option.some.injEq, Int.toNat_natCast, zpow_natCast, Nat.pow_eq]
    norm_cast
  next h =>
    obtain ⟨n, rfl⟩ : ∃ n : Nat, exponent = -n := ⟨exponent.natAbs, by omega⟩
    have hpos : (0 : ℚ) < 2 ^ n := by positivity
    have hwhole : (mantissa : ℚ) = i * 2 ^ n ↔ (mantissa : Int) = i * (2 ^ n : Nat) := by norm_cast
    rw [zpow_neg, zpow_natCast, ← div_eq_mul_inv, div_eq_iff hpos.ne', hwhole, neg_neg, Int.toNat_natCast,
      Nat.pow_eq]
    split
    next hmod =>
      obtain ⟨q, rfl⟩ := Nat.dvd_of_mod_eq_zero hmod
      have hpow : ((2 ^ n : Nat) : Int) ≠ 0 := by positivity
      rw [Nat.mul_div_cancel_left _ (by positivity), Option.some.injEq, Nat.cast_mul, mul_comm,
        mul_left_inj' hpow]
    next hmod =>
      have hnot : (mantissa : Int) ≠ i * (2 ^ n : Nat) := by
        intro h
        exact hmod (Nat.mod_eq_zero_of_dvd (Int.natCast_dvd_natCast.1 ⟨i, by rw [h, mul_comm]⟩))
      simp only [hnot, reduceCtorEq]

/-- The test for an integer gives the value of a number if that is an integer. -/
theorem toInt?_eq_some_iff {x : Binary64} {i : Int} : x.toInt? = some i ↔ x.rational? = some (i : ℚ) := by
  cases x with
  | finite negative mantissa exponent =>
    have htoInt : (finite negative mantissa exponent).toInt? =
        (wholeMagnitude? mantissa exponent).map (if negative then Neg.neg else id) := by
      simp only [toInt?, wholeMagnitude?]
      split
      · rfl
      · split <;> rfl
    rw [htoInt, rational?, Option.some.injEq]
    cases negative with
    | false => simp [wholeMagnitude?_eq_some_iff]
    | true =>
      have hneg : (-(mantissa * 2 ^ exponent : ℚ) = i) ↔ (mantissa * 2 ^ exponent : ℚ) = (-i : Int) := by
        rw [neg_eq_iff_eq_neg, Int.cast_neg]
      simp only [if_true, hneg, ← wholeMagnitude?_eq_some_iff, Option.map_eq_some_iff]
      constructor
      · rintro ⟨j, hj, rfl⟩
        rw [hj, neg_neg]
      · exact fun h => ⟨-i, h, neg_neg i⟩
  | _ => simp [toInt?, rational?]

end LintBridge.Binary64
