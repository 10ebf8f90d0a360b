/-
**Reading numerals.**

A numeral is read without regard to how it was written: a sign, digits, and possibly a point with
digits behind it. Nothing else is read, so there is no exponent, no bare point and no name of what
stands for no number.

* `Decimal.read?` — the decimal that a numeral writes;
* `Decimal.read?_text` — **a decimal reads back** from its numeral: the zeros left out at the end of
  the places do not count;
* `IsTidy`, `Decimal.isTidy_text` — a numeral has no more places than the decimal, and neither a
  bare point nor a zero of the places at its end.
-/

import Mathlib.Algebra.Order.Field.Rat
import Mathlib.Tactic.FieldSimp
import IconComponents.Proofs.Number.Numeral
import IconComponents.Proofs.Text.Blank
import IconComponents.Proofs.Text.Digits
import IconComponents.Proofs.Text.Pieces

namespace IconComponents

namespace Decimal

/-! ### The reader -/

/-- A row of digits. -/
def IsRow (text : Text) : Prop := text ≠ [] ∧ ∀ c ∈ text, c.isDigit = true

instance (text : Text) : Decidable (IsRow text) := inferInstanceAs (Decidable (_ ∧ _))

/-- The decimal of the pieces between points: the whole part, and the places if there is a
point. -/
def ofPieces? (negative : Bool) : List Text → Option Decimal
  | [whole] => if IsRow whole then some ⟨negative, Text.numberOf 10 whole, 0⟩ else none
  | [whole, places] =>
    if IsRow whole ∧ IsRow places then
      some ⟨negative, Text.numberOf 10 (whole ++ places), places.length⟩
    else none
  | _ => none

/-- The decimal that a numeral writes, if a text is one. -/
def read? : Text → Option Decimal
  | '-' :: text => ofPieces? true (Text.splitOn '.' text)
  | text => ofPieces? false (Text.splitOn '.' text)

/-! ### Digits -/

theorem IsRow.not_mem {text : Text} (row : IsRow text) {c : Char} (other : c.isDigit = false) :
    c ∉ text := fun member => absurd (row.2 c member) (by simp [other])

theorem isRow_ofNat (n : Nat) : IsRow (Text.ofNat n) :=
  ⟨Nat.toDigits_ne_nil, fun _ => Text.isDigit_ofNat⟩

theorem length_lastDigits (count n : Nat) : (lastDigits count n).length = count := by
  induction count generalizing n with
  | zero => rfl
  | succ count ih => rw [lastDigits, List.length_append, ih, List.length_singleton]

/-- The last digits of a number are its rest. -/
theorem numberOf_lastDigits (count n : Nat) :
    Text.numberOf 10 (lastDigits count n) = n % 10 ^ count := by
  have digits : ∀ n < 10, Char.digitValue (Nat.digitChar n) = n := by decide
  induction count generalizing n with
  | zero => rw [Nat.pow_zero, Nat.mod_one]; rfl
  | succ count ih =>
    rw [lastDigits, Text.numberOf_concat, ih, digits _ (Nat.mod_lt n (by decide)), Nat.pow_succ',
      Nat.mod_mul, Nat.add_comm]

/-- The whole part and all places write the units. -/
theorem numberOf_ofNat_append_lastDigits (places units : Nat) :
    Text.numberOf 10 (Text.ofNat (units / Nat.pow 10 places) ++ lastDigits places units) =
      units := by
  rw [Text.numberOf_append, length_lastDigits, Text.numberOf_ofNat, numberOf_lastDigits]
  exact Nat.div_add_mod units (10 ^ places)

/-! ### The numeral of a decimal -/

/-- What is left of the places: none and no point, or a row that does not end in a zero. -/
theorem fractionText_cases (places units : Nat) :
    ∃ kept zeros, lastDigits places units = kept ++ zeros ∧ (∀ c ∈ zeros, (c == '0') = true) ∧
      (kept = [] ∧ fractionText places units = [] ∨
        IsRow kept ∧ kept.getLast? ≠ some '0' ∧ fractionText places units = '.' :: kept) := by
  obtain ⟨zeros, split, areZeros, last⟩ :=
    Text.exists_dropEndWhile (· == '0') (lastDigits places units)
  refine ⟨_, zeros, split, areZeros, ?_⟩
  unfold fractionText
  generalize Text.dropEndWhile (· == '0') (lastDigits places units) = kept at split last ⊢
  cases kept with
  | nil => exact Or.inl ⟨rfl, rfl⟩
  | cons c kept =>
    refine Or.inr ⟨⟨List.cons_ne_nil c kept, fun d member => ?_⟩, fun zero => ?_, rfl⟩
    · exact isDigit_lastDigits (split ▸ List.mem_append_left zeros member)
    · exact absurd (last '0' zero) (by decide)

theorem read?_signText (negative : Bool) {text : Text} (unsigned : '-' ∉ text) :
    read? (signText negative ++ text) = ofPieces? negative (Text.splitOn '.' text) := by
  cases negative with
  | true => rfl
  | false =>
    unfold read?
    split
    · next rest same =>
      have first : text = '-' :: rest := same
      exact absurd (first ▸ List.mem_cons_self) unsigned
    · rfl

/-- Zeros at the end of the places do not change a decimal. -/
theorem toRat_of_zeros (negative : Bool) (units places zeros : Nat) :
    toRat ⟨negative, 10 ^ zeros * units, places + zeros⟩ = toRat ⟨negative, units, places⟩ := by
  have magnitude : ((10 ^ zeros * units : Nat) : ℚ) / 10 ^ (places + zeros) =
      units / 10 ^ places := by
    have nonzero : (10 : ℚ) ^ zeros ≠ 0 := pow_ne_zero _ (by norm_num)
    push_cast
    rw [pow_add, mul_comm, mul_div_mul_right _ _ nonzero]
  simp only [toRat, magnitude]

/-- **A decimal reads back** from its numeral, without the zeros at the end of its places. -/
theorem read?_text (decimal : Decimal) :
    ∃ read zeros, read? decimal.text = some read ∧
      decimal = ⟨read.negative, 10 ^ zeros * read.units, read.places + zeros⟩ := by
  obtain ⟨negative, units, places⟩ := decimal
  obtain ⟨kept, zeros, split, areZeros, fraction⟩ := fractionText_cases places units
  let whole := Text.ofNat (units / Nat.pow 10 places)
  have wholeRow : IsRow whole := isRow_ofNat _
  have unitsEq : units = 10 ^ zeros.length * Text.numberOf 10 (whole ++ kept) := by
    rw [← Nat.add_zero (_ * _), ← Text.numberOf_zeros areZeros, ← Text.numberOf_append,
      List.append_assoc, ← split]
    exact (numberOf_ofNat_append_lastDigits places units).symm
  have placesEq : places = kept.length + zeros.length := by
    rw [← List.length_append, ← split, length_lastDigits]
  refine ⟨⟨negative, Text.numberOf 10 (whole ++ kept), kept.length⟩, zeros.length, ?_, ?_⟩
  · change read? (signText negative ++ whole ++ fractionText places units) = _
    rw [List.append_assoc]
    rcases fraction with ⟨rfl, noFraction⟩ | ⟨keptRow, -, fraction⟩
    · rw [noFraction, List.append_nil, read?_signText negative (wholeRow.not_mem rfl),
        Text.splitOn_of_free (wholeRow.not_mem rfl), ofPieces?, if_pos wholeRow, List.length_nil]
    · have unsigned : '-' ∉ whole ++ '.' :: kept := by
        simp [wholeRow.not_mem (c := '-') rfl, keptRow.not_mem (c := '-') rfl]
      rw [fraction, read?_signText negative unsigned,
        Text.splitOn_append_cons (wholeRow.not_mem rfl),
        Text.splitOn_of_free (keptRow.not_mem rfl), ofPieces?, if_pos ⟨wholeRow, keptRow⟩]
  · rw [← unitsEq, ← placesEq]

/-- A numeral reads as the number that it writes. -/
theorem toRat_read?_text (decimal : Decimal) :
    (read? decimal.text).map toRat = some decimal.toRat := by
  obtain ⟨read, zeros, reading, same⟩ := decimal.read?_text
  have value : read.toRat = decimal.toRat := by rw [same, toRat_of_zeros]
  rw [reading, Option.map_some, value]

end Decimal

/-! ### Tidy numerals -/

/-- A text with at most so many places behind a point, and with neither a bare point nor a zero of
the places at its end. -/
structure IsTidy (limit : Nat) (text : Text) : Prop where
  places_le : ∀ before places, text = before ++ '.' :: places → places.length ≤ limit
  no_point : text.getLast? ≠ some '.'
  no_zero : '.' ∈ text → text.getLast? ≠ some '0'

namespace IsTidy

variable {limit : Nat} {text front places : Text}

theorem of_whole (whole : '.' ∉ text) : IsTidy limit text where
  places_le before places split := absurd (split ▸ by simp) whole
  no_point last := whole (List.mem_of_getLast? last)
  no_zero point := absurd point whole

theorem of_row (free : '.' ∉ front) (row : Decimal.IsRow places) (le : places.length ≤ limit)
    (last : places.getLast? ≠ some '0') : IsTidy limit (front ++ '.' :: places) := by
  have pointless : '.' ∉ places := row.not_mem rfl
  have same : (front ++ '.' :: places).getLast? = places.getLast? := by
    rw [List.append_cons, List.getLast?_append_of_ne_nil _ row.1]
  refine ⟨fun before other split => ?_, fun point => ?_, fun _ => same ▸ last⟩
  · -- the point is the only one
    obtain ⟨-, -, rfl⟩ := (List.append_cons_inj_of_notMem free pointless).mp split
    exact le
  · exact pointless (List.mem_of_getLast? (same ▸ point))

end IsTidy

/-- **A numeral is tidy.** -/
theorem Decimal.isTidy_text (decimal : Decimal) : IsTidy decimal.places decimal.text := by
  obtain ⟨negative, units, places⟩ := decimal
  obtain ⟨kept, zeros, split, -, fraction⟩ := fractionText_cases places units
  have free : '.' ∉ signText negative ++ Text.ofNat (units / Nat.pow 10 places) := by
    have sign : '.' ∉ signText negative := by cases negative <;> decide
    simp [sign, (isRow_ofNat _).not_mem (c := '.') rfl]
  change IsTidy places (signText negative ++ Text.ofNat (units / Nat.pow 10 places) ++
    fractionText places units)
  rcases fraction with ⟨-, noFraction⟩ | ⟨keptRow, last, fraction⟩
  · rw [noFraction, List.append_nil]
    exact IsTidy.of_whole free
  · have le : kept.length ≤ places := by
      rw [← length_lastDigits places units, split, List.length_append]
      exact Nat.le_add_right _ _
    rw [fraction]
    exact IsTidy.of_row free keptRow le last

end IconComponents
