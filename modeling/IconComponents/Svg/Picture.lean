/-
**Pictures.**

The root element of a document says which part of the plane is shown, and how large. What it leaves
out follows from the rest: the size from the view, the view from the size, and without either the
size from what is drawn.

* `View.parse?` — the view that an attribute gives;
* `Picture.ofRoot?` — the picture that a root element shows, with its size.
-/

import IconComponents.Svg.Drawing

namespace IconComponents.Svg

/-- A view by two of its edges and its size; it keeps the edges. -/
def View.between? (left top width height : Single) : Option View :=
  let box : Box := ⟨left, top, width + left, height + top⟩
  if box.left.less box.right && box.top.less box.bottom && box.isBounded then
    some ⟨left, top, box.right - left, box.bottom - top⟩
  else none

/-- The view that an attribute gives. -/
def View.parse? (text : Text) : Option View :=
  match numbers? 4 text with
  | some ([left, top, width, height], _) =>
    if width.isPositive && height.isPositive then
      View.between? (left.convert .single) (top.convert .single) (width.convert .single)
        (height.convert .single)
    else none
  | _ => none

/-- A drawing with its size in pixels. -/
structure Picture where
  width : Single
  height : Single
  drawing : Drawing
  deriving Repr, DecidableEq

namespace Picture

/-- The size of a picture without a view, where nothing gives it. -/
def fallback : Double := .ofInt .double 100

/-- A length in percent. -/
def hundred : Length := ⟨.ofInt .double 100, .percent⟩

/-- A side of a picture, in pixels or in percent of the view. -/
def side (own : Attributes) (name : String) : Length :=
  ((own.find? name).bind Length.parse?).getD hundred

/-- A side of a picture without a view; a percentage is taken of the fallback in double
precision. -/
def openSide (length : Length) : Single :=
  let base : Double := .ofInt .double 100
  if length.unit = .percent then (length.number / base * fallback).convert .single
  else length.pixels (.ofInt .single 100)

/-- Whether both sides of a size are above zero. -/
def isSize (width height : Single) : Bool :=
  width.isPositive && width.isFinite && height.isPositive && height.isFinite

/-- The view that a root element gives. -/
def view? (own : Attributes) : Option View := (own.find? "viewBox").bind View.parse?

/-- A side that a root element gives, in pixels; a percentage is taken of the same side of the
view. -/
def givenSide (own : Attributes) (name : String) (viewed : View → Single) : Single :=
  (view? own).elim (openSide (side own name)) fun view => (side own name).pixels (viewed view)

/-- The canvas of a root element: its view, or else all of its size, fitted into its size. -/
def canvas (own : Attributes) (inside : Xml.Forest) : Canvas :=
  let width := givenSide own "width" View.width
  let height := givenSide own "height" View.height
  let view := (view? own).getD ⟨.ofInt .single 0, .ofInt .single 0, width, height⟩
  ⟨view, Placement.fit view width height, (own.find? "id").toList ++ identifiersOf [own] inside⟩

/-- The picture of a root element, unless its size is empty. Sides that are not given are those of
the view; without a view they hold what is drawn. -/
def ofRoot? (written : List Xml.Attribute) (inside : Xml.Forest) : Option Picture :=
  let own := Attributes.own [] written
  let width := givenSide own "width" View.width
  let height := givenSide own "height" View.height
  if !isSize width height then none
  else if isHidden own then some ⟨width, height, .empty⟩
  else
    let canvas := canvas own inside
    let drawn := Drawing.withOpacity (ownOpacity own) (Drawing.ofElements canvas [own] inside)
    let placed :=
      if canvas.placement.isIdentity then drawn
      else .group [] opaqueValue (some canvas.placement) drawn .empty
    let isOpen := (side own "width").unit = .percent || (side own "height").unit = .percent
    let box := (Box.hull? drawn.boxes).getD Box.origin
    if (view? own).isNone && isOpen && isSize box.right box.bottom then
      some ⟨box.right, box.bottom, placed⟩
    else some ⟨width, height, placed⟩

end Picture

end IconComponents.Svg
