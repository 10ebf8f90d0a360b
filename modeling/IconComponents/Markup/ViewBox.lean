/-
**The view box of the root.**

An icon scales only if its root says which part of the plane it shows. A root without a view box
gets one from the icon's size, directly after `<svg`.
-/

import IconComponents.Markup.SvgTag
import IconComponents.Number.Dimension

namespace IconComponents

/-- The view box attribute of a size, with a space before it. -/
def viewBoxAttribute (width height : Single) : Text :=
  " viewBox=\"0 0 ".toList ++ formatDimension width ++ [' '] ++ formatDimension height ++ ['"']

/-- The markup with a view box in its first tag that starts with `<svg`. -/
def ensureViewBox (markup : Text) (width height : Single) : Text :=
  match Text.cut? SvgTag.opening markup with
  | none => markup
  | some (before, after) =>
    if Text.contains (Text.upTo '>' after) "viewBox=\"".toList then markup
    else before ++ SvgTag.opening ++ viewBoxAttribute width height ++ after

end IconComponents
