/-
**Icons.**

An icon that is ready to become a component: its markup, its natural size in pixels, and where it
came from.
-/

import IconComponents.Number.Binary
import IconComponents.Text.Basic

namespace IconComponents

/-- An icon with its natural size in pixels, and the path of the file that it was read from. -/
structure Icon where
  markup : Text
  width : Single
  height : Single
  path : Text
  deriving Repr, DecidableEq

/-- Whether an icon is as wide as it is high. -/
def Icon.isSquare (icon : Icon) : Bool := icon.width.equal icon.height

end IconComponents
