/-
**The shortest decimal that reads back.**

Every rational in a small interval around a number rounds to it; the ends belong to the interval
exactly if the significand is even. The shortest decimal has as few digits as any in the
interval, and of those it is the nearest to the number; of two at the same distance the larger is
taken.

* `Binary.roundsTo` — whether a rational lies in the interval of a positive number;
* `Binary.shortest?` — the shortest decimal of a positive finite number;
* `Binary.text` — the numeral of any number.
-/

import IconComponents.Number.Binary
import IconComponents.Number.Decimal

namespace IconComponents

/-- The exponent of the greatest power of ten that is not above a positive fraction. -/
def floorLog10 (numerator denominator : Nat) : Int :=
  if denominator ≤ numerator then (Nat.toDigits 10 (numerator / denominator)).length - 1
  else -((Nat.toDigits 10 ((denominator - 1) / numerator)).length : Int)

/-- The decimal `units · 10 ^ power`. -/
def Decimal.ofPower (negative : Bool) (units : Nat) (power : Int) : Decimal :=
  if 0 ≤ power then ⟨negative, units * Nat.pow 10 power.toNat, 0⟩
  else ⟨negative, units, (-power).toNat⟩

namespace Binary

variable {format : Format}

/-- Whether a rational rounds to the positive number `significand · 2 ^ exponent`: it lies no
further away than half the distance to the neighbour on its side. -/
def roundsTo (format : Format) (significand : Nat) (exponent : Int) (q : Rat) : Bool :=
  let quarter : Rat := (2 : Rat) ^ (exponent - 2)
  let narrow := significand = Nat.pow 2 (format.precision - 1) && format.minExponent < exponent
  let low := (4 * significand - (if narrow then 1 else 2) : Rat) * quarter
  let high := (4 * significand + 2 : Rat) * quarter
  if significand % 2 = 0 then low ≤ q && q ≤ high else low < q && q < high

/-- The decimal of the grid `10 ^ power` that is nearest to a positive number among those that
round to it, if there is one. -/
def onGrid? (format : Format) (negative : Bool) (significand : Nat) (exponent : Int)
    (power : Int) : Option Decimal :=
  let unit : Rat := (10 : Rat) ^ power
  let value : Rat := significand * (2 : Rat) ^ exponent
  let below := (value / unit).floor.toNat
  let isBelow := roundsTo format significand exponent (below * unit)
  let isAbove := roundsTo format significand exponent ((below + 1 : Nat) * unit)
  let aboveIsNearer : Bool := (below + 1 : Nat) * unit - value ≤ value - below * unit
  if isAbove && (aboveIsNearer || !isBelow) then some (.ofPower negative (below + 1) power)
  else if isBelow then some (.ofPower negative below power)
  else none

/-- The shortest decimal that rounds to a positive number. -/
def shortest? (format : Format) (negative : Bool) (significand : Nat) (exponent : Int) :
    Option Decimal :=
  let (numerator, denominator) := unscale significand 1 (-exponent)
  let lead := floorLog10 numerator denominator
  (List.range format.precision).findSome? fun (digits : Nat) =>
    onGrid? format negative significand exponent (lead - digits)

/-- The numeral of a number: the shortest that reads back. -/
def text : Binary format → Text
  | nan => "NaN".toList
  | infinite negative => Decimal.signText negative ++ "inf".toList
  | finite negative significand exponent =>
    if significand = 0 then Decimal.signText negative ++ ['0']
    else ((shortest? format negative significand exponent).map Decimal.text).getD []

end Binary

end IconComponents
