/-
**How shapes are painted.**

The attributes that say how to paint are handed down to what is in an element, and the nearest one
counts. From the attributes of a shape and of the elements around it its fill and its stroke are
resolved.

* `View` — the part of the plane that is shown;
* `Surroundings.fill?`, `Surroundings.stroke?`, `Surroundings.isVisible` — what the nearest
  attributes say.
-/

import IconComponents.Number.SquareRoot
import IconComponents.Svg.Attributes
import IconComponents.Svg.Length
import IconComponents.Svg.Paint

namespace IconComponents.Svg

/-- The part of the plane that is shown. -/
structure View where
  left : Single
  top : Single
  width : Single
  height : Single
  deriving Repr, DecidableEq

/-- What a percentage is taken of that goes neither across nor along: the quadratic mean of the
sides. -/
def View.meanSide (view : View) : Single :=
  ((view.width * view.width + view.height * view.height) / .ofInt .single 2).sqrt

/-! ### Values -/

/-- The least of a number and one, but not less than zero; zero for what is not finite. -/
def clamp (n : Single) : Single :=
  if n.isFinite && n.isPositive then n.smaller (.ofInt .single 1) else .ofInt .single 0

/-- Full opacity. -/
def opaqueValue : Single := .ofInt .single 1

/-- An opacity: a number or a percentage. -/
def opacity? (text : Text) : Option Single :=
  match Length.parse? text with
  | some ⟨n, .none⟩ => some (clamp (n.convert .single))
  | some ⟨n, .percent⟩ => some (clamp (n.convert .single / .ofInt .single 100))
  | _ => none

/-- The opacity of a colour. -/
def Color.opacity (color : Color) : Single := .ofRat .single (mkRat color.alpha 255) false

/-- The inside of a shape: its colour and opacity, and whether overlaps count in turn as inside and
outside. -/
structure Fill where
  color : Color
  opacity : Single
  alternating : Bool
  deriving Repr, DecidableEq

/-- How lines end. -/
inductive LineCap where
  | butt
  | round
  | square
  deriving Repr, DecidableEq

/-- How lines meet. -/
inductive LineJoin where
  | miter
  | miterClip
  | round
  | bevel
  deriving Repr, DecidableEq

/-- The outline of a shape: its colour and opacity, where in the dashes it starts, how far a corner
may reach, its width, how its ends and corners look, and its dashes and gaps in turn, of which a
solid one has none. -/
structure Stroke where
  color : Color
  opacity : Single
  offset : Single
  miterLimit : Single
  width : Single
  cap : LineCap
  join : LineJoin
  dashes : List Single
  deriving Repr, DecidableEq

namespace Surroundings

/-- The colour of a paint; the surrounding colour is black where none is set. -/
def color? (around : Surroundings) : Paint → Option Color
  | .nothing => none
  | .surrounding => some (((around.find? "color").bind Color.parse?).getD Color.black)
  | .color color => some color

/-- The colour that a value asks for. An element that it links paints nothing, since none of them
is made for that. -/
def paint? (around : Surroundings) (identifiers : List Text) (value : PaintValue) : Option Color :=
  if value.link?.any identifiers.contains then none else around.color? value.paint

/-- The opacity of a name, times the opacity of a colour. -/
def opacityOf (around : Surroundings) (name : String) (color : Color) : Single :=
  color.opacity * ((around.find? name).bind opacity?).getD opaqueValue

/-- The attributes from the nearest element with a name on. -/
def fromHolder (around : Surroundings) (name : String) : Surroundings :=
  around.dropWhile fun attributes => (attributes.find? name).isNone

/-- The fill of a shape. Without any it is black, and so it is if the value is malformed. -/
def fill? (around : Surroundings) (identifiers : List Text) : Option Fill := do
  let value := (PaintValue.parse? ((around.find? "fill").getD "black".toList)).getD
    ⟨none, .color Color.black⟩
  let color ← (around.fromHolder "fill").paint? identifiers value
  some ⟨color, around.opacityOf "fill-opacity" color,
    around.find? "fill-rule" == some "evenodd".toList⟩

/-- A length of a name in pixels; a malformed one has the default. -/
def pixels (around : Surroundings) (base : Single) (name : String) (default : Single) : Single :=
  (((around.find? name).bind Length.parse?).map (·.pixels base)).getD default

/-- The dashes of a stroke: none if one of them is negative or all are zero, and an odd number of
them is taken twice. -/
def dashes (around : Surroundings) (base : Single) : List Single :=
  let lengths := ((around.find? "stroke-dasharray").elim [] Length.list).map (·.pixels base)
  let sum := lengths.foldl (· + ·) (.ofInt .single 0)
  if lengths.any (·.isNegative) || sum.isNear (.ofInt .single 0) then []
  else if lengths.length % 2 = 0 then lengths
  else lengths ++ lengths

/-- How the ends of a stroke look. -/
def cap (around : Surroundings) : LineCap :=
  match around.find? "stroke-linecap" with
  | none => .butt
  | some value =>
    if value = "round".toList then .round
    else if value = "square".toList then .square
    else .butt

/-- How the corners of a stroke look. -/
def join (around : Surroundings) : LineJoin :=
  match around.find? "stroke-linejoin" with
  | none => .miter
  | some value =>
    if value = "round".toList then .round
    else if value = "bevel".toList then .bevel
    else if value = "miter-clip".toList then .miterClip
    else .miter

/-- The stroke of a shape, if it has a colour that is well formed and a width above zero. -/
def stroke? (around : Surroundings) (identifiers : List Text) (view : View) : Option Stroke := do
  let value ← PaintValue.parse? (← around.find? "stroke")
  let color ← (around.fromHolder "stroke").paint? identifiers value
  let one : Single := .ofInt .single 1
  let width := around.pixels view.meanSide "stroke-width" one
  let limit := ((around.find? "stroke-miterlimit").bind single?).getD (.ofInt .single 4)
  if width.isPositive && width.isFinite then
    some {
      color
      opacity := around.opacityOf "stroke-opacity" color
      offset := around.pixels view.meanSide "stroke-dashoffset" (.ofInt .single 0)
      miterLimit := if limit.less one then one else limit
      width
      cap := around.cap
      join := around.join
      dashes := around.dashes view.meanSide }
  else none

/-- Whether a shape is visible. -/
def isVisible (around : Surroundings) : Bool :=
  match around.find? "visibility" with
  | none => true
  | some value => value != "hidden".toList && value != "collapse".toList

end Surroundings

end IconComponents.Svg
