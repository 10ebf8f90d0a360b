/-
**Writing drawings.**

A drawing is written as compactly as it can be read: one element after the other without white
space between them, every attribute only when it is not what it would be anyway, and path data with
absolute commands only.

* `coordinateText` — a coordinate, with at most eight places;
* `Drawing.text` — the elements of a drawing, their identifiers behind a common start;
* `Picture.text` — the whole document.
-/

import IconComponents.Number.Shortest
import IconComponents.Svg.Picture

namespace IconComponents.Svg

/-! ### Coordinates -/

/-- The whole part of a rational. -/
def wholePart (q : Rat) : Int := if q < 0 then -((-q).floor) else q.floor

/-- The whole number nearest to a rational; a half goes away from zero. -/
def nearestWhole (q : Rat) : Int :=
  if q < 0 then -((-q + 1 / 2).floor) else (q + 1 / 2).floor

/-- A whole number within 32 bits. -/
def clampWhole (n : Int) : Int := max (-0x80000000) (min n 0x7fffffff)

/-- The numeral of a whole number. -/
def intText (n : Int) : Text := Decimal.signText (n < 0) ++ Text.ofNat n.natAbs

/-- How often a unit of a coordinate is divided. -/
def coordinateUnits : Single := .ofInt .single 100000000

/-- The least fraction that counts. -/
def leastFraction : Rat := 4 * (2 : Rat) ^ (-149 : Int)

/-- A coordinate rounded to eight places. -/
def roundCoordinate (n : Single) : Single :=
  let scaled := n * coordinateUnits
  Binary.ofRat .single (nearestWhole scaled.toRat) scaled.isNegative / coordinateUnits

/-- How a coordinate is written: a whole number as such, any other with at most eight places. -/
def coordinateText (n : Single) : Text :=
  let q := n.toRat
  let fraction := q - wholePart q
  if 0 ≤ fraction && fraction ≤ leastFraction then intText (clampWhole (wholePart q))
  else (roundCoordinate n).text

/-- How a point is written. -/
def pointText (p : Point Format.single) : Text := coordinateText p.x ++ ' ' :: coordinateText p.y

/-- The command of a step. -/
def PenStep.letter {format : Format} : PenStep format → Char
  | move _ => 'M'
  | line _ => 'L'
  | quadratic _ _ => 'Q'
  | cubic _ _ _ => 'C'
  | close => 'Z'

/-- How an outline is written. -/
def Outline.text (outline : Outline) : Text :=
  Text.joinWith [' '] (outline.map fun step =>
    Text.joinWith [' '] ([step.letter] :: step.points.map pointText))

/-! ### Attributes -/

/-- How an attribute is written, with a space before it. -/
def attributeText (name : String) (value : Text) : Text :=
  ' ' :: name.toList ++ "=\"".toList ++
    (value.flatMap fun c => if c = '"' then "&quot;".toList else [c]) ++ ['"']

/-- An attribute that is written under a condition. -/
def attributeIf (condition : Bool) (name : String) (value : Text) : Text :=
  if condition then attributeText name value else []

/-- How an identifier is written behind the start that all have in common. -/
def idText (common id : Text) : Text := attributeIf (!id.isEmpty) "id" (common ++ id)

/-- An attribute for an opacity that is not full. -/
def opacityText (name : String) (opacity : Single) : Text :=
  attributeIf (!opacity.equal opaqueValue) name opacity.text

/-- How a fill is written. -/
def fillText : Option Fill → Text
  | none => attributeText "fill" "none".toList
  | some fill =>
    attributeText "fill" fill.color.text ++ opacityText "fill-opacity" fill.opacity ++
      attributeIf fill.alternating "fill-rule" "evenodd".toList

/-- The name of an ending of lines that is not the usual one. -/
def LineCap.name? : LineCap → Option String
  | butt => none
  | round => some "round"
  | square => some "square"

/-- The name of a corner that is not the usual one. -/
def LineJoin.name? : LineJoin → Option String
  | miter => none
  | miterClip => some "miter-clip"
  | round => some "round"
  | bevel => some "bevel"

/-- An attribute that may be missing. -/
def nameText (name : String) (value? : Option String) : Text :=
  value?.elim [] fun value => attributeText name value.toList

/-- How a stroke is written. -/
def strokeText : Option Stroke → Text
  | none => attributeText "stroke" "none".toList
  | some stroke =>
    attributeText "stroke" stroke.color.text ++ opacityText "stroke-opacity" stroke.opacity ++
      attributeIf (!stroke.offset.isNear (.ofInt .single 0)) "stroke-dashoffset"
        stroke.offset.text ++
      attributeIf (!stroke.miterLimit.isNear (.ofInt .single 4)) "stroke-miterlimit"
        stroke.miterLimit.text ++
      attributeIf (!stroke.width.isNear (.ofInt .single 1)) "stroke-width" stroke.width.text ++
      nameText "stroke-linecap" stroke.cap.name? ++ nameText "stroke-linejoin" stroke.join.name? ++
      attributeIf (!stroke.dashes.isEmpty) "stroke-dasharray"
        (Text.joinWith [' '] (stroke.dashes.map Binary.text))

/-- How a placement is written. -/
def Placement.text (placement : Placement) : Text :=
  let numbers := [placement.scale, .ofInt .single 0, .ofInt .single 0, placement.scale,
    placement.right, placement.down]
  "matrix(".toList ++ Text.joinWith [' '] (numbers.map coordinateText) ++ [')']

/-! ### Elements -/

/-- How a path is written. -/
def PaintedPath.text (common : Text) (path : PaintedPath) : Text :=
  "<path".toList ++ idText common path.id ++ fillText path.fill ++ strokeText path.stroke ++
    attributeIf (!path.visible) "visibility" "hidden".toList ++
    attributeText "d" path.outline.text ++ "/>".toList

/-- How a drawing is written; `common` is what all identifiers start with. -/
def Drawing.text (common : Text) : Drawing → Text
  | empty => []
  | group id opacity placement inside behind =>
    let opening := "<g".toList ++ idText common id ++ opacityText "opacity" opacity ++
      placement.elim [] fun placement => attributeText "transform" placement.text
    let body := match inside with
      | empty => "/>".toList
      | _ => '>' :: inside.text common ++ "</g>".toList
    opening ++ body ++ behind.text common
  | path painted behind => painted.text common ++ behind.text common

/-- How a picture is written. -/
def Picture.text (common : Text) (picture : Picture) : Text :=
  "<svg".toList ++ attributeText "width" picture.width.text ++
    attributeText "height" picture.height.text ++ attributeText "xmlns" svgNamespace ++
    "><defs/>".toList ++ picture.drawing.text common ++ "</svg>".toList

end IconComponents.Svg
