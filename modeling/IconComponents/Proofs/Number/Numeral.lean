/-
**The characters of numerals.**

A number is written with digits, a sign and a point, or with the letters of what stands for no
number. Nothing else comes into a text through a number.

* `numeralCharacters` — these characters;
* `isNumeral_binary`, `isNumeral_dimension` — a number is written with no other ones.
-/

import IconComponents.Number.Dimension
import IconComponents.Proofs.Text.Blank
import IconComponents.Proofs.Text.Scan

namespace IconComponents

/-- The characters that numerals are made of. -/
def numeralCharacters : Text := "0123456789-.NaNinf".toList

/-- A text has characters of numerals only. -/
def IsNumeral (text : Text) : Prop := ∀ c ∈ text, c ∈ numeralCharacters

instance (text : Text) : Decidable (IsNumeral text) :=
  decidable_of_iff (text.all (numeralCharacters.elem ·) = true) <| by simp [IsNumeral]

/-- A character that is not one of numerals is not in one. -/
theorem IsNumeral.not_mem {text : Text} (numeral : IsNumeral text) {c : Char}
    (foreign : c ∉ numeralCharacters) : c ∉ text := fun member => foreign (numeral c member)

theorem IsNumeral.append {left right : Text} (first : IsNumeral left) (second : IsNumeral right) :
    IsNumeral (left ++ right) := fun c member =>
  (List.mem_append.mp member).elim (first c) (second c)

theorem isNumeral_sign (negative : Bool) : IsNumeral (Decimal.signText negative) := by
  cases negative <;> decide

theorem mem_numeral_of_isDigit {c : Char} (digit : c.isDigit = true) :
    c ∈ numeralCharacters := by
  have table : ∀ code < 128, (Char.ofNat code).isAlphanum = true →
      (Char.ofNat code).isDigit = true → Char.ofNat code ∈ numeralCharacters := by
    decide
  have solid : c.isAlphanum = true := by rw [Char.isAlphanum, digit, Bool.or_true]
  exact @Text.of_isAlphanum (fun c => c.isDigit = true → c ∈ numeralCharacters) c table solid digit

theorem isNumeral_ofNat (n : Nat) : IsNumeral (Text.ofNat n) := fun _ member =>
  mem_numeral_of_isDigit (Text.isDigit_ofNat member)

theorem Decimal.isDigit_lastDigits {count n : Nat} {c : Char}
    (member : c ∈ Decimal.lastDigits count n) : c.isDigit = true := by
  have digits : ∀ n < 10, (Nat.digitChar n).isDigit = true := by decide
  induction count generalizing n with
  | zero => exact absurd member List.not_mem_nil
  | succ count ih =>
    rcases List.mem_append.mp member with front | last
    · exact ih front
    · rw [List.mem_singleton.mp last]
      exact digits _ (Nat.mod_lt _ (by decide))

theorem isNumeral_fraction (places units : Nat) :
    IsNumeral (Decimal.fractionText places units) := by
  obtain ⟨zeros, split, -⟩ :=
    Text.exists_dropEndWhile (· == '0') (Decimal.lastDigits places units)
  have digits : IsNumeral (Text.dropEndWhile (· == '0') (Decimal.lastDigits places units)) := by
    intro c member
    have inside := List.mem_append_left zeros member
    rw [← split] at inside
    exact mem_numeral_of_isDigit (Decimal.isDigit_lastDigits inside)
  unfold Decimal.fractionText
  split
  · exact fun _ member => absurd member List.not_mem_nil
  · exact List.forall_mem_cons.mpr ⟨by decide, digits⟩

theorem isNumeral_decimal (decimal : Decimal) : IsNumeral decimal.text :=
  ((isNumeral_sign _).append (isNumeral_ofNat _)).append (isNumeral_fraction _ _)

/-- **A number is written as a numeral.** -/
theorem isNumeral_binary {format : Format} (n : Binary format) : IsNumeral n.text := by
  cases n with
  | nan => exact (by decide : IsNumeral "NaN".toList)
  | infinite negative => exact (isNumeral_sign negative).append (by decide)
  | finite negative significand exponent =>
    rw [Binary.text]
    split
    · exact (isNumeral_sign negative).append (by decide)
    · cases Binary.shortest? format negative significand exponent with
      | none => exact fun _ member => absurd member List.not_mem_nil
      | some decimal => exact isNumeral_decimal decimal

/-- **A dimension is written as a numeral.** -/
theorem isNumeral_dimension (n : Single) : IsNumeral (formatDimension n) := by
  cases n with
  | nan => exact isNumeral_binary (Binary.nan : Single)
  | infinite negative => exact isNumeral_binary (Binary.infinite negative : Single)
  | finite negative significand exponent => exact isNumeral_decimal _

end IconComponents
