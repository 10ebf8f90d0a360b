/-
**How positive dimensions are printed.**

A positive dimension is printed as the number of thousandths nearest to it, without a sign. This
number can be zero.

* `exists_units` — the number of thousandths that is printed;
* `Decimal.units_eq_of_text_eq` — a numeral of three places tells its units;
* `formatDimension_eq_iff` — **two positive dimensions look alike** exactly if they have the same
  number of thousandths;
* `showsSide_formatDimension` — **a positive dimension looks positive** exactly if it is more than
  half a thousandth.
-/

import IconComponents.Proofs.Number.Dimension

namespace IconComponents

variable {v w : Single}

/-! ### Units -/

theorem Binary.isNegative_of_toRat_pos {format : Format} {n : Binary format} (positive : 0 < n.toRat) :
    n.isNegative = false := by
  cases n with
  | nan => rfl
  | infinite negative => exact absurd positive (lt_irrefl 0)
  | finite negative significand exponent =>
    cases negative with
    | false => rfl
    | true =>
      have magnitude : (0 : ℚ) ≤ significand * 2 ^ exponent :=
        mul_nonneg (Nat.cast_nonneg significand) (zpow_nonneg (by norm_num) exponent)
      exact absurd positive (not_lt.mpr (neg_nonpos.mpr magnitude))

/-- A positive dimension is printed as the nearest number of thousandths. -/
theorem exists_units (positive : 0 < v.toRat) : ∃ units : ℕ,
    formatDimension v = Decimal.text ⟨false, units, 3⟩ ∧ RoundsTo (1000 * v.toRat) units := by
  have unsigned := Binary.isNegative_of_toRat_pos positive
  cases v with
  | nan => exact absurd positive (lt_irrefl 0)
  | infinite negative => exact absurd positive (lt_irrefl 0)
  | finite negative significand exponent =>
    obtain rfl : negative = false := unsigned
    exact ⟨_, rfl, roundsTo_units false significand exponent⟩

/-- Numerals of the same number of places tell their units. -/
theorem Decimal.units_eq_of_text_eq {places units units' : ℕ}
    (same : Decimal.text ⟨false, units, places⟩ = Decimal.text ⟨false, units', places⟩) :
    units = units' := by
  obtain ⟨read, zeros, reading, shape⟩ := Decimal.read?_text ⟨false, units, places⟩
  obtain ⟨read', zeros', reading', shape'⟩ := Decimal.read?_text ⟨false, units', places⟩
  obtain rfl : read = read' := Option.some.inj (reading.symm.trans (same ▸ reading'))
  simp only [Decimal.mk.injEq] at shape shape'
  have zerosEq : zeros = zeros' := by omega
  rw [shape.2.1, shape'.2.1, zerosEq]

/-- **Two positive dimensions look alike** exactly if they are nearest to the same number of
thousandths. -/
theorem formatDimension_eq_iff (positive : 0 < v.toRat) (positive' : 0 < w.toRat) :
    formatDimension v = formatDimension w ↔
      ∃ units : ℕ, RoundsTo (1000 * v.toRat) units ∧ RoundsTo (1000 * w.toRat) units := by
  obtain ⟨units, text, nearest⟩ := exists_units positive
  obtain ⟨units', text', nearest'⟩ := exists_units positive'
  rw [text, text']
  constructor
  · intro same
    obtain rfl := Decimal.units_eq_of_text_eq same
    exact ⟨units, nearest, nearest'⟩
  · rintro ⟨common, toCommon, toCommon'⟩
    have left : units = common := by exact_mod_cast nearest.unique toCommon
    have right : units' = common := by exact_mod_cast nearest'.unique toCommon'
    rw [left, right]

/-! ### Zero and above -/

/-- How the side of a picture looks: positive exactly if it is more than half a thousandth, and as
zero otherwise. -/
structure ShowsSide (side : ℚ) (text : Text) : Prop where
  reads : ∃ shown, Decimal.read? text = some shown ∧ (0 < shown.toRat ↔ 1 / 2000 < side)
  vanishes : side ≤ 1 / 2000 → text = ['0']

/-- **A positive dimension looks positive** exactly if it is more than half a thousandth. -/
theorem showsSide_formatDimension (positive : 0 < v.toRat) :
    ShowsSide v.toRat (formatDimension v) := by
  obtain ⟨units, text, nearest⟩ := exists_units positive
  have large : 0 < units ↔ 1 / 2000 < v.toRat := by
    rw [← Int.natCast_pos, nearest.pos_iff]
    constructor <;> intro <;> linarith
  rw [text]
  constructor
  · obtain ⟨shown, reading, value⟩ :=
      Option.map_eq_some_iff.mp (Decimal.toRat_read?_text ⟨false, units, 3⟩)
    refine ⟨shown, reading, ?_⟩
    have thousandths : Decimal.toRat ⟨false, units, 3⟩ = units / 1000 := by
      norm_num [Decimal.toRat]
    rw [value, thousandths, ← large]
    constructor
    · intro above
      by_contra zero
      rw [Nat.eq_zero_of_not_pos zero] at above
      norm_num at above
    · intro above
      have : (0 : ℚ) < units := by exact_mod_cast above
      positivity
  · intro small
    obtain rfl : units = 0 := Nat.eq_zero_of_not_pos fun above =>
      absurd (large.mp above) (not_lt.mpr small)
    decide

end IconComponents
