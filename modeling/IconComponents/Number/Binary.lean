/-
**Binary floating-point numbers.**

A finite number is a sign, a significand and an exponent of two; it denotes the rational
`± significand · 2 ^ exponent`. Arithmetic is exact on rationals and then rounds once, to the
nearest number of the format, a tie to the even significand.

* `Format` — how many digits a significand has and how far exponents reach; `single`, `double`;
* `roundDiv` — a quotient rounded to the nearest whole number, a tie to the even one;
* `Binary.ofFraction`, `Binary.ofRat` — the number of a format nearest to a rational;
* `Binary.ofDecimal` — the number nearest to `digits · 10 ^ power`;
* `Binary.equal`, `Binary.less`, and the instances of `+`, `-`, `*`, `/`;
* `Binary.isNear` — whether two numbers are equal up to a few steps of rounding.
-/

namespace IconComponents

/-- A format of binary floating-point numbers: how many binary digits a significand has at most, and
the least and the greatest exponent of two. -/
structure Format where
  precision : Nat
  minExponent : Int
  maxExponent : Int
  deriving Repr, DecidableEq

namespace Format

/-- Single precision. -/
def single : Format := ⟨24, -149, 104⟩

/-- Double precision. -/
def double : Format := ⟨53, -1074, 971⟩

end Format

/-- A number of a format: none at all, one beyond every finite number, or the number `± significand
· 2 ^ exponent`. -/
inductive Binary (format : Format) where
  | nan
  | infinite (negative : Bool)
  | finite (negative : Bool) (significand : Nat) (exponent : Int)
  deriving Repr, DecidableEq

/-- A number in single precision. -/
abbrev Single := Binary Format.single

/-- A number in double precision. -/
abbrev Double := Binary Format.double

/-! ### Rounding -/

/-- The quotient rounded to the nearest whole number; a half goes to the even neighbour. -/
def roundDiv (numerator denominator : Nat) : Nat :=
  let quotient := numerator / denominator
  let twice := 2 * (numerator % denominator)
  if twice < denominator then quotient
  else if denominator < twice then quotient + 1
  else if quotient % 2 = 0 then quotient else quotient + 1

/-- The fraction `numerator / denominator / 2 ^ exponent`. -/
def unscale (numerator denominator : Nat) (exponent : Int) : Nat × Nat :=
  if 0 ≤ exponent then (numerator, denominator * Nat.pow 2 exponent.toNat)
  else (numerator * Nat.pow 2 (-exponent).toNat, denominator)

/-- The exponent of the greatest power of two that is not above a positive fraction. -/
def floorLog2 (numerator denominator : Nat) : Int :=
  let guess : Int := (numerator.log2 : Int) - denominator.log2
  let (n, d) := unscale numerator denominator guess
  if n < d then guess - 1 else guess

namespace Binary

variable {format : Format}

/-- The number nearest to a fraction; too large a one becomes infinite. -/
def ofFraction (format : Format) (negative : Bool) (numerator denominator : Nat) : Binary format :=
  if numerator = 0 then .finite negative 0 format.minExponent
  else
    let exponent := max format.minExponent
      (floorLog2 numerator denominator - (format.precision - 1 : Nat))
    let (n, d) := unscale numerator denominator exponent
    let rounded := roundDiv n d
    let (significand, exponent) :=
      if rounded = Nat.pow 2 format.precision then (rounded / 2, exponent + 1)
      else (rounded, exponent)
    if format.maxExponent < exponent then .infinite negative
    else .finite negative significand exponent

/-- The number nearest to a rational; `negativeZero` is the sign of zero. -/
def ofRat (format : Format) (q : Rat) (negativeZero : Bool) : Binary format :=
  if q = 0 then .finite negativeZero 0 format.minExponent
  else ofFraction format (q < 0) q.num.natAbs q.den

/-- No format reaches `10 ^ farPower` or has a positive number below `10 ^ -farPower`. -/
def farPower : Nat := 400

/-- The number nearest to `± digits · 10 ^ power`. -/
def ofDecimal (format : Format) (negative : Bool) (digits : Nat) (power : Int) : Binary format :=
  let length : Int := (Nat.toDigits 10 digits).length
  if digits = 0 || length + power < -(farPower : Int) then .finite negative 0 format.minExponent
  else if (farPower : Int) < length + power then .infinite negative
  else if 0 ≤ power then ofFraction format negative (digits * Nat.pow 10 power.toNat) 1
  else ofFraction format negative digits (Nat.pow 10 (-power).toNat)

/-! ### Values -/

/-- The sign of a number. -/
def isNegative : Binary format → Bool
  | nan => false
  | infinite negative => negative
  | finite negative _ _ => negative

/-- Whether a number is finite. -/
def isFinite : Binary format → Bool
  | finite _ _ _ => true
  | _ => false

/-- The rational that a number denotes; zero for one that is not finite. -/
def toRat : Binary format → Rat
  | finite negative significand exponent =>
    let magnitude : Rat := significand * (2 : Rat) ^ exponent
    if negative then -magnitude else magnitude
  | _ => 0

/-- Whether a number is zero, of either sign. -/
def isZero : Binary format → Bool
  | finite _ 0 _ => true
  | _ => false

/-- Whether a number has all the binary digits of its format: it is neither zero nor so small that
the least exponent cuts its digits off. -/
def isNormal : Binary format → Bool
  | finite _ significand _ => Nat.pow 2 (format.precision - 1) ≤ significand
  | _ => false

/-- The same number in another format, rounded if it does not fit. -/
def convert (target : Format) : Binary format → Binary target
  | nan => .nan
  | infinite negative => .infinite negative
  | finite negative significand exponent =>
    .ofRat target ((finite negative significand exponent : Binary format).toRat) negative

/-- The number denoted by a whole number. -/
def ofInt (format : Format) (n : Int) : Binary format := ofRat format n false

/-! ### Comparison -/

/-- Whether two numbers are equal; zeros are equal, and `nan` equals nothing. -/
def equal : Binary format → Binary format → Bool
  | nan, _ => false
  | _, nan => false
  | infinite a, infinite b => a == b
  | infinite _, finite _ _ _ => false
  | finite _ _ _, infinite _ => false
  | a, b => a.toRat == b.toRat

/-- Whether the first number is below the second; `nan` compares with nothing. -/
def less : Binary format → Binary format → Bool
  | nan, _ => false
  | _, nan => false
  | infinite a, infinite b => a && !b
  | infinite a, finite _ _ _ => a
  | finite _ _ _, infinite b => !b
  | a, b => a.toRat < b.toRat

/-- Whether a number is above zero. -/
def isPositive (a : Binary format) : Bool := less (ofInt format 0) a

/-- How many numbers of the format lie between zero and a finite number. -/
def rank : Binary format → Nat
  | finite _ significand exponent =>
    (exponent - format.minExponent).toNat * Nat.pow 2 (format.precision - 1) + significand
  | _ => 0

/-- Whether two numbers are equal, or finite and of one sign with at most four steps from the one
to the other. -/
def isNear (a b : Binary format) : Bool :=
  a.equal b ||
    (a.isFinite && b.isFinite && a.isNegative == b.isNegative &&
      ((a.rank : Int) - b.rank).natAbs ≤ 4)

/-! ### Arithmetic -/

/-- The negated number. -/
protected def neg : Binary format → Binary format
  | nan => .nan
  | infinite negative => .infinite !negative
  | finite negative significand exponent => .finite (!negative) significand exponent

/-- The sum, rounded once. -/
protected def add : Binary format → Binary format → Binary format
  | nan, _ => .nan
  | _, nan => .nan
  | infinite a, infinite b => if a = b then .infinite a else .nan
  | infinite a, finite _ _ _ => .infinite a
  | finite _ _ _, infinite b => .infinite b
  | a, b => ofRat format (a.toRat + b.toRat) (a.isNegative && b.isNegative)

/-- The product, rounded once. -/
protected def mul (a b : Binary format) : Binary format :=
  let negative := a.isNegative != b.isNegative
  match a, b with
  | nan, _ => .nan
  | _, nan => .nan
  | infinite _, other => if other.isZero then .nan else .infinite negative
  | other, infinite _ => if other.isZero then .nan else .infinite negative
  | a, b => ofRat format (a.toRat * b.toRat) negative

/-- The quotient, rounded once. -/
protected def div (a b : Binary format) : Binary format :=
  let negative := a.isNegative != b.isNegative
  match a, b with
  | nan, _ => .nan
  | _, nan => .nan
  | infinite _, infinite _ => .nan
  | infinite _, finite _ _ _ => .infinite negative
  | finite _ _ _, infinite _ => .finite negative 0 format.minExponent
  | a, b =>
    if b.isZero then if a.isZero then .nan else .infinite negative
    else ofRat format (a.toRat / b.toRat) negative

instance : Neg (Binary format) := ⟨Binary.neg⟩
instance : Add (Binary format) := ⟨Binary.add⟩
instance : Sub (Binary format) := ⟨fun a b => a + -b⟩
instance : Mul (Binary format) := ⟨Binary.mul⟩
instance : Div (Binary format) := ⟨Binary.div⟩

/-- The smaller of two numbers. -/
def smaller (a b : Binary format) : Binary format := if less b a then b else a

/-- The greater of two numbers. -/
def greater (a b : Binary format) : Binary format := if less a b then b else a

end Binary

end IconComponents
