/-
**The number that digits write.**

* `numberOf_append` — the digits in front count for as many powers of the base as others follow;
* `numberOf_ofNat` — **a number reads back** from its decimal digits.
-/

import Mathlib.Algebra.Group.Nat.Defs
import Mathlib.Data.List.Induction
import IconComponents.Text.Digits
import IconComponents.Proofs.Text.Scan

namespace IconComponents.Text

variable {base : Nat}

theorem numberOf_concat (digits : Text) (c : Char) :
    numberOf base (digits ++ [c]) = base * numberOf base digits + Char.digitValue c := by
  rw [numberOf, List.foldl_concat, numberOf]

theorem numberOf_append (front behind : Text) :
    numberOf base (front ++ behind) =
      base ^ behind.length * numberOf base front + numberOf base behind := by
  induction behind using List.reverseRecOn with
  | nil => rw [List.append_nil, List.length_nil, Nat.pow_zero, Nat.one_mul]; rfl
  | append_singleton behind c ih =>
    rw [← List.append_assoc, numberOf_concat, ih, numberOf_concat, List.length_append,
      List.length_singleton, Nat.pow_succ', Nat.mul_add, Nat.mul_assoc, Nat.add_assoc]

theorem numberOf_zeros {zeros : Text} (areZeros : ∀ c ∈ zeros, (c == '0') = true) :
    numberOf base zeros = 0 := by
  rw [List.eq_replicate_iff.mpr ⟨rfl, fun c member => eq_of_beq (areZeros c member)⟩]
  induction zeros.length with
  | zero => rfl
  | succ count ih => rw [List.replicate_succ', numberOf_concat, ih]; rfl

/-- Digits of base ten are read as the standard library reads them. -/
theorem numberOf_ten {digits : Text} (areDigits : ∀ c ∈ digits, c.isDigit = true) :
    numberOf 10 digits = Nat.ofDigitChars 10 digits 0 := by
  rw [numberOf]
  generalize 0 = start
  induction digits generalizing start with
  | nil => rfl
  | cons c digits ih =>
    have value : Char.digitValue c = c.toNat - '0'.toNat := by
      rw [Char.digitValue, if_pos (areDigits c List.mem_cons_self)]
      rfl
    rw [List.foldl_cons, Nat.ofDigitChars_cons, value,
      ih fun other member => areDigits other (List.mem_cons_of_mem _ member)]

/-- **A number reads back** from its decimal digits. -/
theorem numberOf_ofNat (n : Nat) : numberOf 10 (ofNat n) = n := by
  rw [numberOf_ten fun c => isDigit_ofNat]
  exact Nat.ofDigitChars_ten_toDigits

end IconComponents.Text
