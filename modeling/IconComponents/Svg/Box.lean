/-
**Points and boxes.**

A box holds points between its edges. Edges are finite, and they must not be so far apart that the
width or the height of the box is beyond single precision.

* `Point` — a point of the plane;
* `Box.around?` — the smallest box that holds points.
-/

import IconComponents.Number.Binary

namespace IconComponents.Svg

/-- A point with coordinates in a given precision. -/
structure Point (format : Format) where
  x : Binary format
  y : Binary format
  deriving Repr, DecidableEq

namespace Point

variable {format : Format}

/-- The point at the sum of coordinates. -/
def plus (p q : Point format) : Point format := ⟨p.x + q.x, p.y + q.y⟩

/-- The origin. -/
def origin : Point format := ⟨.ofInt format 0, .ofInt format 0⟩

/-- The point on the other side of `centre`. -/
def reflect (centre p : Point format) : Point format :=
  let two : Binary format := .ofInt format 2
  ⟨centre.x * two - p.x, centre.y * two - p.y⟩

/-- The point in single precision. -/
def toSingle (p : Point format) : Point Format.single := ⟨p.x.convert .single, p.y.convert .single⟩

/-- Whether both coordinates are finite. -/
def isFinite (p : Point format) : Bool := p.x.isFinite && p.y.isFinite

end Point

/-- What lies between four edges. -/
structure Box where
  left : Single
  top : Single
  right : Single
  bottom : Single
  deriving Repr, DecidableEq

namespace Box

/-- The greatest number in single precision. -/
def greatest : Single := .finite false 0xffffff 104

/-- Whether two edges are finite and less apart than the greatest number. -/
def isSpan (low high : Single) : Bool :=
  low.isFinite && high.isFinite &&
    (high.convert .double - low.convert .double).less (greatest.convert .double)

/-- Whether the edges of a box are finite and not too far apart. -/
def isBounded (box : Box) : Bool := isSpan box.left box.right && isSpan box.top box.bottom

/-- The box that holds a point only. -/
def ofPoint (p : Point Format.single) : Box := ⟨p.x, p.y, p.x, p.y⟩

/-- The box that holds only the origin. -/
def origin : Box := ofPoint .origin

/-- The smallest box that holds what two boxes hold. -/
def union (a b : Box) : Box :=
  ⟨a.left.smaller b.left, a.top.smaller b.top, a.right.greater b.right,
    a.bottom.greater b.bottom⟩

/-- The smallest box that holds what all boxes of a list hold; there is none of no boxes, and none
that is too large. -/
def hull? : List Box → Option Box
  | [] => none
  | first :: others =>
    let box := others.foldl union first
    if box.isBounded then some box else none

/-- The smallest box that holds points. -/
def around? (points : List (Point Format.single)) : Option Box := hull? (points.map ofPoint)

end Box

end IconComponents.Svg
