/-
**What colours shapes.**

The value of a fill or a stroke is no paint, a colour, the surrounding colour, or a link to an
element that paints; a link can say what paints where there is no such element.

* `Paint` — what colours a shape;
* `PaintValue.parse?` — the value of a fill or a stroke.
-/

import IconComponents.Svg.Color
import IconComponents.Text.Blank

namespace IconComponents.Svg

/-- What colours a shape: nothing, the colour that surrounds it, or a colour. -/
inductive Paint where
  | nothing
  | surrounding
  | color (color : Color)
  deriving Repr, DecidableEq

/-- The value of a fill or a stroke: the identifier of an element that paints, and what colours the
shape where no element is linked. -/
structure PaintValue where
  link? : Option Text
  paint : Paint
  deriving Repr, DecidableEq

/-- Whether a character is a quotation mark. -/
def isQuote (c : Char) : Bool := c = '"' || c = '\''

/-- The identifier that a link names, and the text behind it; the text starts behind the opening
bracket. -/
def linkedId? (text : Text) : Option (Text × Text) :=
  match Text.skipSpace text with
  | '#' :: text =>
    let isInside := fun (c : Char) => c != ' ' && c != ')'
    some (text.takeWhile isInside, text.dropWhile isInside)
  | quote :: text =>
    if isQuote quote then
      match Text.skipSpace text with
      | '#' :: text =>
        match text.dropWhile (· != quote) with
        | [] => none
        | _ :: rest => some (Text.trimEnd (text.takeWhile (· != quote)), rest)
      | _ => none
    else none
  | [] => none

/-- A link, and the text behind its closing bracket. -/
def readLink? (text : Text) : Option (Text × Text) := do
  let (id, rest) ← linkedId? text
  match Text.skipSpace rest with
  | ')' :: rest => if id.any isQuote then none else some (id, rest)
  | _ => none

/-- A paint that is no link. -/
def Paint.parse? (text : Text) : Option Paint :=
  if text = "none".toList then some .nothing
  else if text = "currentColor".toList then some .surrounding
  else (Color.parse? text).map .color

/-- The words for no paint, apart from `none`: nothing here takes the paint of another shape. -/
def borrowedPaints : List Text :=
  ["inherit".toList, "context-fill".toList, "context-stroke".toList]

/-- The value of a fill or a stroke. -/
def PaintValue.parse? (value : Text) : Option PaintValue :=
  let text := Text.trim value
  match Text.after? "url(".toList text with
  | some inner =>
    (readLink? inner).bind fun (id, rest) =>
      let fallback := Text.skipSpace rest
      if fallback.isEmpty then some ⟨some id, .nothing⟩
      else (Paint.parse? fallback).map fun paint => ⟨some id, paint⟩
  | none =>
    if borrowedPaints.contains text then some ⟨none, .nothing⟩
    else (Paint.parse? text).map fun paint => ⟨none, paint⟩

end IconComponents.Svg
