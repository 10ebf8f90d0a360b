/-
**Drawings.**

A drawing is a tree of groups and painted outlines. It is made from a document by resolving all that
the document leaves implicit: what is not shown is left out, groups hand their attributes down, and
the part of the plane that the document shows is fitted into its size.

* `Drawing` — the tree; `Drawing.ofElements` — the drawing of elements;
* `Canvas` — what all shapes of a drawing have in common;
* `identifiersOf`, `isTooDeep` — the identifiers of elements, and whether they stand too deep.
-/

import IconComponents.Svg.Extent
import IconComponents.Svg.Style

namespace IconComponents.Svg

/-- A painted outline: its identifier, which is empty if it has none, its inside and its outline,
whether it is seen, and the steps of the pen. -/
structure PaintedPath where
  id : Text
  fill : Option Fill
  stroke : Option Stroke
  visible : Bool
  outline : Outline
  deriving Repr, DecidableEq

/-- A scaling and a shift, to the right and downwards. -/
structure Placement where
  scale : Single
  right : Single
  down : Single
  deriving Repr, DecidableEq

/-- Groups and paths side by side: nothing, a group with what is in it and behind it, or a path with
what is behind it. -/
inductive Drawing where
  | empty
  | group (id : Text) (opacity : Single) (placement : Option Placement) (inside behind : Drawing)
  | path (path : PaintedPath) (behind : Drawing)
  deriving Repr, DecidableEq

/-- How a view is fitted into a size: as large as possible without distortion, and in the middle. -/
def Placement.fit (view : View) (width height : Single) : Placement :=
  let half := fun (n : Single) => n / .ofInt .single 2
  let scale := (width / view.width).smaller (height / view.height)
  ⟨scale, -view.left * scale + half (width - view.width * scale),
    -view.top * scale + half (height - view.height * scale)⟩

/-- Whether a placement leaves everything where it is. -/
def Placement.isIdentity (placement : Placement) : Bool :=
  placement.scale.equal (.ofInt .single 1) && placement.right.isZero && placement.down.isZero

/-- Where a placement puts a box. -/
def Placement.box (placement : Placement) (box : Box) : Box :=
  let across := fun (n : Single) => n * placement.scale + placement.right
  let along := fun (n : Single) => n * placement.scale + placement.down
  ⟨across box.left, along box.top, across box.right, along box.bottom⟩

/-- What all shapes of a drawing have in common: the part of the plane that is shown, how it is
fitted into the size of the drawing, and the identifiers of all elements. -/
structure Canvas where
  view : View
  placement : Placement
  identifiers : List Text
  deriving Repr, DecidableEq

/-! ### Shapes -/

/-- A coordinate of a shape in pixels. -/
def Attributes.pixels (own : Attributes) (name : String) (base : Single) : Single :=
  (((own.find? name).bind Length.parse?).map (·.pixels base)).getD (.ofInt .single 0)

/-- The outline of a shape, by the name of its element. -/
def outlineOf? (view : View) (name : Text) (own : Attributes) : Option Outline :=
  let across := fun (name : String) => own.pixels name view.width
  let along := fun (name : String) => own.pixels name view.height
  if name = "path".toList then (own.find? "d").bind Outline.ofPath?
  else if name = "rect".toList then
    Outline.ofRectangle? (across "x") (along "y") (across "width") (along "height")
  else if name = "line".toList then
    Outline.ofLine? ⟨across "x1", along "y1"⟩ ⟨across "x2", along "y2"⟩
  else if name = "polyline".toList then (own.find? "points").bind (Outline.ofPoints? false)
  else (own.find? "points").bind (Outline.ofPoints? true)

/-- The names of elements that are shapes. -/
def shapeNames : List Text :=
  ["path".toList, "rect".toList, "line".toList, "polyline".toList, "polygon".toList]

/-- The names of elements that are groups. A link is a group, too. -/
def groupNames : List Text := ["g".toList, "a".toList]

/-- A shape as it is painted. One without fill and stroke is not seen. -/
def paintedPath (canvas : Canvas) (around : Surroundings) (id : Text) (outline : Outline) :
    PaintedPath :=
  let fill := around.fill? canvas.identifiers
  let stroke := around.stroke? canvas.identifiers canvas.view
  { id, fill, stroke, outline
    visible := around.isVisible && (fill.isSome || stroke.isSome) }

/-- Whether an outline stays within bounds, also where the view is fitted into the size. -/
def Canvas.holds (canvas : Canvas) (outline : Outline) : Bool :=
  outline.box?.any fun box =>
    canvas.placement.isIdentity || (canvas.placement.box box).isBounded

/-- Whether an element is of the drawing: its namespace is that of drawings, or it has none. -/
def isOurs (name : Xml.Name) : Bool :=
  match name.space? with
  | none => true
  | some place => place == svgNamespace

/-- Whether an element counts at all, with what is in it. -/
def isKnown (name : Xml.Name) : Bool :=
  isOurs name &&
    (name.name = "svg".toList || groupNames.contains name.name || shapeNames.contains name.name)

/-- Whether an element and all in it is left out. -/
def isHidden (own : Attributes) : Bool := own.find? "display" == some "none".toList

/-- The identifier of an element, empty if it has none. -/
def ownId (own : Attributes) : Text := (own.find? "id").getD []

/-- The opacity of an element by itself. -/
def ownOpacity (own : Attributes) : Single := ((own.find? "opacity").bind opacity?).getD opaqueValue

namespace Drawing

/-- Drawings side by side. -/
def append : Drawing → Drawing → Drawing
  | empty, other => other
  | group id opacity placement inside behind, other =>
    .group id opacity placement inside (behind.append other)
  | path painted behind, other => .path painted (behind.append other)

/-- A drawing with an opacity; one that is nearly full needs no group. -/
def withOpacity (opacity : Single) (drawing : Drawing) : Drawing :=
  if opacity.isNear opaqueValue then drawing else .group [] opacity none drawing .empty

/-- The drawing of a shape. -/
def ofShape (canvas : Canvas) (around : Surroundings) (name : Text) (own : Attributes) : Drawing :=
  let drawn := match outlineOf? canvas.view name own with
    | none => .empty
    | some outline =>
      if canvas.holds outline then .path (paintedPath canvas around (ownId own) outline) .empty
      else .empty
  withOpacity (ownOpacity own) drawn

/-- The drawing of elements inside given surroundings. -/
def ofElements (canvas : Canvas) : Surroundings → Xml.Forest → Drawing
  | _, .empty => .empty
  | around, .aside behind => ofElements canvas around behind
  | around, .element name written inside behind =>
    let own := Attributes.own around written
    let others := ofElements canvas around behind
    if !isOurs name || isHidden own then others
    else if groupNames.contains name.name then
      .group (ownId own) (ownOpacity own) none (ofElements canvas (own :: around) inside) others
    else if shapeNames.contains name.name then
      (ofShape canvas (own :: around) name.name own).append others
    else others

/-- The boxes of the parts of a drawing. A group that holds nothing, or too much, has the box of the
origin. -/
def boxes : Drawing → List Box
  | empty => []
  | group _ _ _ inside behind => (Box.hull? inside.boxes).getD Box.origin :: behind.boxes
  | path painted behind => painted.outline.box?.toList ++ behind.boxes

end Drawing

/-! ### Elements -/

/-- The identifiers of the elements that count, inside given surroundings. -/
def identifiersOf : Surroundings → Xml.Forest → List Text
  | _, .empty => []
  | around, .aside behind => identifiersOf around behind
  | around, .element name written inside behind =>
    let own := Attributes.own around written
    let others := identifiersOf around behind
    if isKnown name then
      (own.find? "id").toList ++ identifiersOf (own :: around) inside ++ others
    else others

/-- How deep elements can stand. -/
def deepest : Nat := 1024

/-- Whether something stands too deep, the elements themselves standing at a given depth. -/
def isTooDeep (depth : Nat) : Xml.Forest → Bool
  | .empty => false
  | .aside behind => deepest < depth || isTooDeep depth behind
  | .element name _ inside behind =>
    deepest < depth || (isKnown name && isTooDeep (depth + 1) inside) || isTooDeep depth behind

end IconComponents.Svg
