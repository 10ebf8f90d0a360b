/-
**Decimal numerals.**

Numbers are written in positional notation, never with an exponent: a sign, the whole part, and a
point with the places after it unless they are all zero.

* `Decimal` — a whole number of units of the last place; `Decimal.toRat` is its value;
* `Decimal.text` — the numeral, without zeros at the end of its places.
-/

import IconComponents.Text.Blank

namespace IconComponents

/-- The number `± units / 10 ^ places`. -/
structure Decimal where
  negative : Bool
  units : Nat
  places : Nat
  deriving Repr, DecidableEq

namespace Decimal

/-- The rational that a decimal denotes. -/
def toRat (decimal : Decimal) : Rat :=
  let magnitude : Rat := decimal.units / (10 : Rat) ^ decimal.places
  if decimal.negative then -magnitude else magnitude

/-- The last `count` decimal digits of a number. -/
def lastDigits : Nat → Nat → Text
  | 0, _ => []
  | count + 1, n => lastDigits count (n / 10) ++ [Nat.digitChar (n % 10)]

/-- The sign of a number, if it is written. -/
def signText (negative : Bool) : Text := if negative then ['-'] else []

/-- The places after the point, without zeros at their end, and the point if any are left. -/
def fractionText (places units : Nat) : Text :=
  match Text.dropEndWhile (· == '0') (lastDigits places units) with
  | [] => []
  | fraction => '.' :: fraction

/-- The numeral of a decimal. -/
def text (decimal : Decimal) : Text :=
  signText decimal.negative ++ Text.ofNat (decimal.units / Nat.pow 10 decimal.places) ++
    fractionText decimal.places decimal.units

end Decimal

end IconComponents
