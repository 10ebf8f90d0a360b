/-
**Dimensions in generated source.**

A width or height is written with at most three places: it is rounded to thousandths, a tie to the
even one, and zeros at the end of the places are left out.
-/

import IconComponents.Number.Shortest

namespace IconComponents

/-- How many places a dimension has at most. -/
def dimensionPlaces : Nat := 3

/-- A finite number in thousandths. -/
def dimensionDecimal (negative : Bool) (significand : Nat) (exponent : Int) : Decimal :=
  let (numerator, denominator) := unscale (significand * Nat.pow 10 dimensionPlaces) 1 (-exponent)
  ⟨negative, roundDiv numerator denominator, dimensionPlaces⟩

/-- The numeral of a dimension. -/
def formatDimension : Single → Text
  | .nan => (Binary.nan : Single).text
  | .infinite negative => (Binary.infinite negative : Single).text
  | .finite negative significand exponent =>
    (dimensionDecimal negative significand exponent).text

end IconComponents
