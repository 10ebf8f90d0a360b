/-
**Colour properties of a component.**

A component has a property for each attribute that colours its icon: a text if the attribute has
one colour, a list of texts if it has several. The colours of the icon itself are the default.

* `Occurrences.field?`, `Occurrences.default?` — the property's declaration and its default, if
  there is a colour at all;
* `Properties.ofOccurrences` — the type literal that declares both properties, and their defaults.
-/

import IconComponents.Markup.PaintAttribute
import IconComponents.Text.Quoted

namespace IconComponents

namespace Occurrences

/-- The type of the attribute's property. -/
def typeName (occurrences : Occurrences) : Text :=
  if occurrences.isMultiple then "string[]".toList else "string".toList

/-- The declaration of the attribute's property. -/
def field? (occurrences : Occurrences) : Option Text :=
  if occurrences.isEmpty then none
  else some (occurrences.paint.name ++ "?: ".toList ++ occurrences.typeName)

/-- The literal of the property's default. -/
def default? (occurrences : Occurrences) : Option Text :=
  match occurrences.values with
  | [] => none
  | [value] => some (Text.quote value)
  | values => some (Text.quoteAll values)

end Occurrences

/-- The colour properties of a component: the type literal that declares them, which is empty if
there are none, and the literals of their defaults. -/
structure Properties where
  typeLiteral : Text
  fillDefault : Option Text
  strokeDefault : Option Text
  deriving Repr, DecidableEq

namespace Properties

/-- The type literal of a list of fields. -/
def literal : List Text → Text
  | [] => []
  | fields => "\x7b ".toList ++ Text.joinWith "; ".toList fields ++ " \x7d".toList

/-- The properties for the colours of an icon. -/
def ofOccurrences (fill stroke : Occurrences) : Properties where
  typeLiteral := literal ([fill, stroke].filterMap Occurrences.field?)
  fillDefault := fill.default?
  strokeDefault := stroke.default?

/-- Whether the component has no colour property. -/
def isEmpty (properties : Properties) : Bool := properties.typeLiteral.isEmpty

end Properties

end IconComponents
