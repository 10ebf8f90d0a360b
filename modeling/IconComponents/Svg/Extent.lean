/-
**How far outlines reach.**

A curve stays within the points it is drawn by, but need not reach them. How far it does reach is
decided at the places where it turns around: where its speed to the side, or along, is zero.

* `quadraticTurn?`, `cubicTurns` — the places on a curve where a coordinate turns around;
* `Outline.box?` — the smallest box that holds an outline.
-/

import IconComponents.Number.SquareRoot
import IconComponents.Svg.Outline

namespace IconComponents.Svg

/-- A whole number in single precision. -/
def single (n : Int) : Single := .ofInt .single n

/-! ### Where curves turn around -/

/-- A quotient that is strictly between zero and one. -/
def inside? (numerator denominator : Single) : Option Single :=
  let negative := numerator.less (single 0)
  let n := if negative then -numerator else numerator
  let d := if negative then -denominator else denominator
  if d.isZero || n.isZero || !n.less d then none
  else
    let quotient := n / d
    if quotient.isPositive && quotient.less (single 1) then some quotient else none

/-- The place where a curve with one control point turns around, on the way from zero to one. -/
def quadraticTurn? (a b c : Single) : Option Single := inside? (a - b) (a - b - b + c)

/-- The solutions of `a t² + b t + c = 0` between zero and one; the root is taken in double
precision. -/
def solutions (a b c : Single) : List Single :=
  if a.isZero then (inside? (-c) b).toList
  else
    let wide := fun (n : Single) => n.convert .double
    let four : Double := .ofInt .double 4
    let square := wide b * wide b - four * wide a * wide c
    let root := square.sqrt.convert .single
    if square.less (.ofInt .double 0) || !root.isFinite then []
    else
      let q := (if b.less (single 0) then -(b - root) else -(b + root)) / single 2
      (inside? q a).toList ++ (inside? c q).toList

/-- The places where a curve with two control points turns around. -/
def cubicTurns (a b c d : Single) : List Single :=
  solutions (d - a + single 3 * (b - c)) (single 2 * (a - b - b + c)) (b - a)

/-! ### Points on curves -/

/-- A coordinate of a curve with one control point. -/
def quadraticAt (p q r t : Single) : Single :=
  let twice := fun (n : Single) => n + n
  ((r - twice q + p) * t + twice (q - p)) * t + p

/-- A coordinate of a curve with two control points. -/
def cubicAt (p q r s t : Single) : Single :=
  let a := s + single 3 * (q - r) - p
  let b := single 3 * (r - (q + q) + p)
  let c := single 3 * (q - p)
  ((a * t + b) * t + c) * t + p

/-- The points where a curve with one control point turns around. -/
def quadraticExtremes (p q r : Point Format.single) : List (Point Format.single) :=
  ((quadraticTurn? p.x q.x r.x).toList ++ (quadraticTurn? p.y q.y r.y).toList).map fun t =>
    ⟨quadraticAt p.x q.x r.x t, quadraticAt p.y q.y r.y t⟩

/-- The points where a curve with two control points turns around. -/
def cubicExtremes (p q r s : Point Format.single) : List (Point Format.single) :=
  (cubicTurns p.x q.x r.x s.x ++ cubicTurns p.y q.y r.y s.y).map fun t =>
    ⟨cubicAt p.x q.x r.x s.x t, cubicAt p.y q.y r.y s.y t⟩

/-! ### Outlines -/

namespace Outline

/-- The points that decide how far an outline reaches; the pen is at `place`, and its drawing
started at `start`. -/
def reach (start place : Point Format.single) : Outline → List (Point Format.single)
  | [] => []
  | .move target :: steps => target :: reach target target steps
  | .line target :: steps => target :: reach start target steps
  | .quadratic control target :: steps =>
    quadraticExtremes place control target ++ target :: reach start target steps
  | .cubic first second target :: steps =>
    cubicExtremes place first second target ++ target :: reach start target steps
  | .close :: steps => reach start start steps

/-- The smallest box that holds an outline. -/
def box? (outline : Outline) : Option Box := Box.around? (outline.reach .origin .origin)

end Outline

end IconComponents.Svg
