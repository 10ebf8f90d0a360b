/-
**What a template writes.**

The payload of a component is everything that a template can refer to, each field a text ready to
be written, a flag, or nothing.

* `Payload.ofIcon` — the payload of an icon under a component name;
* `Payload.field?` — the fields by their names.
-/

import IconComponents.Component.Properties
import IconComponents.Icon
import IconComponents.Markup.Rewrite
import IconComponents.Number.Dimension

namespace IconComponents

/-- What a template can write about a component: its name and markup, the natural size of its icon
and whether that is square, the default of its height, the literals of its colours' defaults, the
type literal of its colour properties, and the path that the icon came from. -/
structure Payload where
  componentName : Text
  svg : Text
  width : Text
  height : Text
  square : Bool
  heightDefault : Text
  fill : Option Text
  stroke : Option Text
  propertyType : Text
  path : Text
  deriving Repr, DecidableEq

/-- The value of a payload's field. -/
inductive FieldValue where
  | null
  | flag (value : Bool)
  | text (value : Text)
  deriving Repr, DecidableEq

namespace FieldValue

/-- A text that may be missing. -/
def ofOption (text : Option Text) : FieldValue := text.elim null .text

/-- How a value is written. -/
def written : FieldValue → Text
  | null => []
  | flag value => if value then "true".toList else "false".toList
  | text value => value
end FieldValue

namespace Payload

/-- The default height of a square icon's component is its width. -/
def heightDefaultOf (square : Bool) : Text := if square then "width".toList else "'auto'".toList

/-- The payload of an icon under a component name. -/
def ofIcon (icon : Icon) (componentName : Text) : Payload :=
  let fill := Occurrences.extract icon.markup .fill
  let stroke := Occurrences.extract icon.markup .stroke
  let properties := Properties.ofOccurrences fill stroke
  { componentName
    svg := rewriteMarkup icon.markup fill stroke
    width := formatDimension icon.width
    height := formatDimension icon.height
    square := icon.isSquare
    heightDefault := heightDefaultOf icon.isSquare
    fill := properties.fillDefault
    stroke := properties.strokeDefault
    propertyType := properties.typeLiteral
    path := icon.path.map fun c => if c = '\\' then '/' else c }

/-- The fields with the names that templates call them by. -/
def fields (payload : Payload) : List (Text × FieldValue) :=
  [("component_name".toList, .text payload.componentName), ("svg".toList, .text payload.svg),
    ("width".toList, .text payload.width), ("height".toList, .text payload.height),
    ("square".toList, .flag payload.square), ("height_default".toList, .text payload.heightDefault),
    ("fill".toList, .ofOption payload.fill), ("stroke".toList, .ofOption payload.stroke),
    ("prop_type".toList, .text payload.propertyType), ("path".toList, .text payload.path)]

/-- The field of a given name. -/
def field? (payload : Payload) (name : Text) : Option FieldValue :=
  payload.fields.lookup name

end Payload

end IconComponents
