/-
**Rounding to the nearest whole number.**

* `RoundsTo` — the whole number nearest to a rational, a tie to the even one; it is the same on
  both sides of zero (`RoundsTo.neg`);
* `RoundsTo.le_of_le` — **rounding keeps the order**: a tie is where two rationals could cross,
  and there both go to the even number;
* `RoundsTo.eq_intCast` — a whole number stays as it is;
* `roundsTo_roundDiv` — `roundDiv` rounds a fraction in this way, `unscale_fst_div_snd` is the
  fraction that it is given.
-/

import Mathlib.Algebra.Order.Field.Basic
import Mathlib.Algebra.Order.Field.Rat
import Mathlib.Data.Nat.Cast.Order.Field
import Mathlib.Data.Rat.Cast.Order
import Mathlib.Tactic.FieldSimp
import Mathlib.Tactic.Linarith
import IconComponents.Number.Binary

namespace IconComponents

/-! ### The nearest whole number -/

/-- A rational rounds to the whole number nearest to it; of two that are equally near, to the even
one. -/
structure RoundsTo (x : ℚ) (k : ℤ) : Prop where
  close : |x - k| ≤ 1 / 2
  even : |x - k| = 1 / 2 → Even k

namespace RoundsTo

variable {x y : ℚ} {k l : ℤ}

theorem neg (nearest : RoundsTo x k) : RoundsTo (-x) (-k) := by
  have mirrored : |-x - (-k : ℤ)| = |x - k| := by
    rw [Int.cast_neg, ← neg_sub', abs_neg]
  exact ⟨mirrored ▸ nearest.close, fun tie => (nearest.even (mirrored ▸ tie)).neg⟩

/-- **Rounding keeps the order.** Where it would not, there is room for a single point only, and both
numbers are ties between neighbours. -/
theorem le_of_le (le : x ≤ y) (left : RoundsTo x k) (right : RoundsTo y l) : k ≤ l := by
  by_contra above
  have apart : (l : ℚ) + 1 ≤ k := by exact_mod_cast Int.add_one_le_iff.mpr (not_le.mp above)
  obtain ⟨-, belowK⟩ := abs_le.mp (abs_sub_comm x k ▸ left.close)
  obtain ⟨-, aboveL⟩ := abs_le.mp right.close
  have xTie : (k : ℚ) - x = 1 / 2 := by linarith
  have yTie : y - l = 1 / 2 := by linarith
  have kEven : Even k := left.even (by rw [abs_sub_comm, xTie]; norm_num)
  have lEven : Even l := right.even (by rw [yTie]; norm_num)
  have neighbours : k = l + 1 := by
    have : (k : ℚ) = l + 1 := by linarith
    exact_mod_cast this
  exact Int.not_even_iff_odd.mpr lEven.add_one (neighbours ▸ kEven)

/-- There is one nearest whole number. -/
theorem unique (nearest : RoundsTo x k) (nearest' : RoundsTo x l) : k = l :=
  le_antisymm (nearest.le_of_le le_rfl nearest') (nearest'.le_of_le le_rfl nearest)

theorem of_intCast (k : ℤ) : RoundsTo (k : ℚ) k := by
  have zero : |(k : ℚ) - k| = 0 := by rw [sub_self, abs_zero]
  exact ⟨by rw [zero]; norm_num, fun tie => by rw [zero] at tie; norm_num at tie⟩

/-- A whole number stays as it is. -/
theorem eq_intCast {m : ℤ} (nearest : RoundsTo (m : ℚ) k) : k = m := nearest.unique (of_intCast m)

/-- A half rounds to zero, and what is more does not. -/
theorem pos_iff (nearest : RoundsTo x k) : 0 < k ↔ 1 / 2 < x := by
  constructor
  · intro above
    by_contra small
    have half : RoundsTo (1 / 2) 0 := ⟨by norm_num, fun _ => Even.zero⟩
    exact absurd (nearest.le_of_le (not_lt.mp small) half) (not_le.mpr above)
  · intro large
    obtain ⟨-, belowX⟩ := abs_le.mp nearest.close
    have above : (0 : ℚ) < k := by linarith
    exact_mod_cast above

end RoundsTo

/-! ### The rounded quotient -/

/-- A fraction is nearest to a whole number, compared over whole numbers. -/
theorem RoundsTo.of_natAbs {numerator denominator k : Nat} (positive : 0 < denominator)
    (close : 2 * ((numerator : ℤ) - (denominator * k : Nat)).natAbs ≤ denominator)
    (even : 2 * ((numerator : ℤ) - (denominator * k : Nat)).natAbs = denominator → k % 2 = 0) :
    RoundsTo (numerator / denominator) k := by
  have positive' : (0 : ℚ) < denominator := by exact_mod_cast positive
  have distance : |(numerator : ℚ) / denominator - (k : ℤ)| =
      ((numerator : ℤ) - (denominator * k : Nat)).natAbs / denominator := by
    rw [Nat.cast_natAbs, Int.cast_abs, ← abs_of_pos positive', ← abs_div, abs_of_pos positive']
    congr 1
    push_cast
    field_simp
  generalize ((numerator : ℤ) - (denominator * k : Nat)).natAbs = gap at close even distance
  constructor
  · have close' : (2 * gap : ℚ) ≤ denominator := by exact_mod_cast close
    rw [distance, div_le_iff₀ positive']
    linarith
  · intro tie
    rw [distance, div_eq_iff positive'.ne'] at tie
    have tie' : (2 * gap : ℚ) = denominator := by linarith
    exact (Nat.even_iff.mpr (even (by exact_mod_cast tie'))).natCast

/-- **A quotient is rounded to the nearest** whole number. -/
theorem roundsTo_roundDiv (numerator : Nat) {denominator : Nat} (positive : 0 < denominator) :
    RoundsTo (numerator / denominator) (roundDiv numerator denominator) := by
  have division := Nat.div_add_mod numerator denominator
  have rest := Nat.mod_lt numerator positive
  have next := Nat.mul_add_one denominator (numerator / denominator)
  apply RoundsTo.of_natAbs positive <;> simp only [roundDiv]
  · split_ifs <;> omega
  · split_ifs <;> omega

/-! ### The fraction of a number -/

theorem unscale_snd_pos (numerator : Nat) {denominator : Nat} (positive : 0 < denominator)
    (exponent : ℤ) : 0 < (unscale numerator denominator exponent).2 := by
  unfold unscale
  split_ifs
  · exact Nat.mul_pos positive (Nat.pow_pos Nat.two_pos)
  · exact positive

/-- The fraction that is rounded is the one to be written. -/
theorem unscale_fst_div_snd (numerator denominator : Nat) (exponent : ℤ) :
    ((unscale numerator denominator exponent).1 : ℚ) /
        (unscale numerator denominator exponent).2 = numerator / denominator / 2 ^ exponent := by
  unfold unscale
  split_ifs with nonneg
  · lift exponent to ℕ using nonneg
    simp only [Int.toNat_natCast, zpow_natCast, div_div, Nat.pow_eq]
    push_cast
    rfl
  · obtain ⟨power, rfl⟩ : ∃ power : ℕ, exponent = -power := ⟨(-exponent).toNat, by omega⟩
    simp only [neg_neg, Int.toNat_natCast, zpow_neg, zpow_natCast, div_inv_eq_mul, Nat.pow_eq]
    push_cast
    exact mul_div_right_comm _ _ _

end IconComponents
