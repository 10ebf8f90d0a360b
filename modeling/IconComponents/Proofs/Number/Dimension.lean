/-
**What a dimension is printed as.**

A dimension is printed in thousandths, rounded on its exact value, so whole numbers, tiny numbers
and numbers just below a whole one need no separate treatment.

* `exists_thousandths` — the numeral of a finite number writes the nearest number of thousandths;
* `IsPrintOf` — a numeral is tidy and reads as a number close to the one it stands for;
* `formatDimension_faithful` — **dimensions are printed accurately, tidily and in order.**
-/

import Mathlib.Tactic.Ring
import IconComponents.Number.Dimension
import IconComponents.Proofs.Number.Reading
import IconComponents.Proofs.Number.Rounding

namespace IconComponents

/-! ### Thousandths -/

/-- Dimensions are rounded to thousandths. -/
theorem roundsTo_units (negative : Bool) (significand : Nat) (exponent : ℤ) :
    RoundsTo (1000 * (significand * 2 ^ exponent))
      (dimensionDecimal negative significand exponent).units := by
  have nearest := roundsTo_roundDiv
    (unscale (significand * Nat.pow 10 dimensionPlaces) 1 (-exponent)).1
    (unscale_snd_pos (significand * Nat.pow 10 dimensionPlaces) Nat.one_pos (-exponent))
  have scaled : ((significand * Nat.pow 10 dimensionPlaces : Nat) : ℚ) / (1 : Nat) /
      2 ^ (-exponent) = 1000 * (significand * 2 ^ exponent) := by
    have thousand : Nat.pow 10 dimensionPlaces = 1000 := rfl
    rw [thousand, zpow_neg, div_inv_eq_mul]
    push_cast
    ring
  rw [unscale_fst_div_snd, scaled] at nearest
  exact nearest

/-- The numeral of a finite number writes the nearest number of thousandths. -/
theorem exists_thousandths {v : Single} (finite : v.isFinite = true) :
    ∃ (decimal : Decimal) (thousandths : ℤ), formatDimension v = decimal.text ∧
      decimal.places = 3 ∧ decimal.toRat = thousandths / 1000 ∧
      RoundsTo (1000 * v.toRat) thousandths := by
  cases v with
  | nan => cases finite
  | infinite negative => cases finite
  | finite negative significand exponent =>
    have nearest := roundsTo_units negative significand exponent
    refine ⟨dimensionDecimal negative significand exponent, ?_⟩
    cases negative with
    | false =>
      refine ⟨_, rfl, rfl, ?_, nearest⟩
      change (_ : ℚ) / 10 ^ 3 = _
      norm_num
    | true =>
      refine ⟨_, rfl, rfl, ?_, by simpa [Binary.toRat] using nearest.neg⟩
      change -((_ : ℚ) / 10 ^ 3) = _
      norm_num [neg_div]

/-! ### The printed number -/

/-- A text is what a number is printed as: a tidy numeral of at most three places that reads as a
number within half a thousandth, and as the number itself if that is a whole number of eighths. -/
structure IsPrintOf (x : ℚ) (text : Text) (printed : ℚ) : Prop where
  tidy : IsTidy 3 text
  reads : ∃ decimal, Decimal.read? text = some decimal ∧ decimal.toRat = printed
  close : |printed - x| ≤ 1 / 2000
  exact_eighths : ∀ eighths : ℤ, x = eighths / 8 → printed = x

/-- A decimal with three places prints the nearest thousandths. -/
theorem isPrintOf_text {decimal : Decimal} {x : ℚ} {thousandths : ℤ} (places : decimal.places = 3)
    (value : decimal.toRat = thousandths / 1000) (nearest : RoundsTo (1000 * x) thousandths) :
    IsPrintOf x decimal.text (thousandths / 1000) where
  tidy := places ▸ decimal.isTidy_text
  reads := value ▸ Option.map_eq_some_iff.mp decimal.toRat_read?_text
  close := by
    have split : (thousandths : ℚ) / 1000 - x = -(1000 * x - thousandths) / 1000 := by ring
    have thousand : (0 : ℚ) < 1000 := by norm_num
    rw [split, abs_div, abs_neg, abs_of_pos thousand, div_le_iff₀ thousand]
    exact nearest.close.trans (by norm_num)
  exact_eighths eighths same := by
    have whole : 1000 * x = ((125 * eighths : ℤ) : ℚ) := by
      rw [same]
      push_cast
      ring
    have kept : thousandths = 125 * eighths := RoundsTo.eq_intCast (whole ▸ nearest)
    rw [kept, same]
    push_cast
    ring

/-- **Dimensions are printed accurately, tidily and in order.** -/
theorem formatDimension_faithful {v w : Single} (vFinite : v.isFinite = true)
    (wFinite : w.isFinite = true) :
    ∃ vPrinted wPrinted, IsPrintOf v.toRat (formatDimension v) vPrinted ∧
      IsPrintOf w.toRat (formatDimension w) wPrinted ∧
      (v.toRat ≤ w.toRat → vPrinted ≤ wPrinted) := by
  obtain ⟨vDecimal, vThousandths, vText, vPlaces, vValue, vNearest⟩ := exists_thousandths vFinite
  obtain ⟨wDecimal, wThousandths, wText, wPlaces, wValue, wNearest⟩ := exists_thousandths wFinite
  refine ⟨vThousandths / 1000, wThousandths / 1000, ?_, ?_, fun le => ?_⟩
  · rw [vText]
    exact isPrintOf_text vPlaces vValue vNearest
  · rw [wText]
    exact isPrintOf_text wPlaces wValue wNearest
  · have scaled : 1000 * v.toRat ≤ 1000 * w.toRat := by linarith
    have ordered : (vThousandths : ℚ) ≤ wThousandths := by
      exact_mod_cast vNearest.le_of_le scaled wNearest
    linarith

/-- The number next below zero and one just below ten. -/
theorem formatDimension_just_below :
    let belowZero : Single := .finite true 1 (-149)
    let belowTen : Single := .finite false 10485655 (-20)
    belowZero.isFinite = true ∧ belowTen.isFinite = true ∧
      formatDimension belowZero = "-0".toList ∧ formatDimension belowTen = "10".toList ∧
      ∃ zero ten, IsPrintOf belowZero.toRat (formatDimension belowZero) zero ∧
        IsPrintOf belowTen.toRat (formatDimension belowTen) ten ∧
        (belowZero.toRat ≤ belowTen.toRat → zero ≤ ten) :=
  ⟨rfl, rfl, by decide, by decide, formatDimension_faithful rfl rfl⟩

end IconComponents
