/-
**The icon in its component.**

The first svg tag of a rendered template is the component's root. If it closes at once, it is a
place for the icon: the icon takes its place, and the tag's attributes are added to the icon's own
root. If it does not, the template has placed the icon itself.

* `mergeIntoIcon` — the icon with more attributes on its root;
* `spliceRoot?` — the rendered text with the icon in its place, if it has a root.
-/

import IconComponents.Markup.SvgTag

namespace IconComponents

/-- The icon with `attributes` added to its root tag. Markup without a root tag gets one. -/
def mergeIntoIcon (icon attributes : Text) : Text :=
  match SvgTag.find? icon with
  | none => SvgTag.written attributes ++ icon ++ "</svg>".toList
  | some (before, inside, after) =>
    let root := SvgTag.inside inside
    let slash := if root.closed then ['/'] else []
    before ++ SvgTag.written (root.attributes ++ attributes ++ slash) ++ after

/-- The rendered text with the icon in the place of its first svg tag, if that closes at once. -/
def spliceRoot? (rendered icon : Text) : Option Text :=
  (SvgTag.find? rendered).map fun (before, inside, after) =>
    let root := SvgTag.inside inside
    if root.closed then before ++ mergeIntoIcon icon root.attributes ++ after else rendered

end IconComponents
