/-
**Square roots.**

The root of a number is taken on whole numbers: the significand is widened until its whole root has
more digits than the format keeps, and whether the root is exact is remembered in one digit more.
Rounding that once gives the number nearest to the root.

* `floorSqrt` — the whole root of a whole number; its square is not above the number
  (`floorSqrt_mul_self_le`), that of the next number is (`lt_floorSqrt_succ_mul_self`);
* `Binary.sqrt` — the root of a number of a format.
-/

import IconComponents.Number.Binary

namespace IconComponents

/-- The greatest whole number whose square is not above a given one. It is twice the root of a
quarter, or one more. -/
def floorSqrt (n : Nat) : Nat :=
  if n = 0 then 0
  else
    let even := 2 * floorSqrt (n / 4)
    if (even + 1) * (even + 1) ≤ n then even + 1 else even
termination_by n

/-- The square of the whole root is not above the number, and that of the next number is. -/
theorem floorSqrt_bounds (n : Nat) :
    floorSqrt n * floorSqrt n ≤ n ∧ n < (floorSqrt n + 1) * (floorSqrt n + 1) := by
  fun_induction floorSqrt n with
  | case1 => decide
  | case2 n nonzero even fits _ =>
    have next : (even + 1 + 1) * (even + 1 + 1) = 4 * ((floorSqrt (n / 4) + 1) *
        (floorSqrt (n / 4) + 1)) := by
      have : even + 1 + 1 = 2 * (floorSqrt (n / 4) + 1) := by
        simp only [even]
        omega
      rw [this, Nat.mul_mul_mul_comm]
    omega
  | case3 n nonzero even exceeds hypothesis =>
    have square : even * even = 4 * (floorSqrt (n / 4) * floorSqrt (n / 4)) :=
      Nat.mul_mul_mul_comm _ _ _ _
    omega

/-- The square of the whole root is not above the number. -/
theorem floorSqrt_mul_self_le (n : Nat) : floorSqrt n * floorSqrt n ≤ n := (floorSqrt_bounds n).1

/-- The square of what follows the whole root is above the number. -/
theorem lt_floorSqrt_succ_mul_self (n : Nat) : n < (floorSqrt n + 1) * (floorSqrt n + 1) :=
  (floorSqrt_bounds n).2

namespace Binary

variable {format : Format}

/-- The number nearest to the square root; below zero there is none. -/
def sqrt : Binary format → Binary format
  | nan => .nan
  | infinite negative => if negative then .nan else .infinite false
  | finite negative significand exponent =>
    if significand = 0 then .finite negative significand exponent
    else if negative then .nan
    else
      let widening := 2 * format.precision + 4 + (exponent % 2).toNat
      let widened := significand * Nat.pow 2 widening
      let root := floorSqrt widened
      let inexact := if root * root = widened then 0 else 1
      let (n, d) := unscale (2 * root + inexact) 1 (1 - (exponent - widening) / 2)
      .ofFraction format false n d

end Binary

end IconComponents
