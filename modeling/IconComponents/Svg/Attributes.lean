/-
**The attributes of elements.**

An element has attributes of its own. Those that say how to paint can also be declared in its
`style`, where they stand above plain attributes, and they can ask for what the elements around
have.

* `Attributes.own` — the attributes of an element inside others;
* `Attributes.find?` — the value of an attribute;
* `Surroundings.find?` — the nearest value of an attribute.
-/

import IconComponents.Svg.Declaration
import IconComponents.Xml.Tree

namespace IconComponents.Svg

/-- An attribute as it counts, and whether it stands above later declarations. -/
structure Setting where
  name : Text
  value : Text
  important : Bool
  deriving Repr, DecidableEq

/-- The attributes of an element. -/
abbrev Attributes := List Setting

/-- The attributes of an element and of those around it, the innermost first. -/
abbrev Surroundings := List Attributes

/-! ### Names -/

/-- The attributes that say how to paint, with the values they have where nothing is set; only these
can be declared in a style or be inherited on demand. -/
def paintingNames : List (Text × Option String) :=
  [("color".toList, none), ("display".toList, some "inline"), ("fill".toList, some "black"),
    ("fill-opacity".toList, some "1"), ("fill-rule".toList, some "nonzero"),
    ("opacity".toList, some "1"), ("stroke".toList, some "none"),
    ("stroke-dasharray".toList, some "none"), ("stroke-dashoffset".toList, some "0"),
    ("stroke-linecap".toList, some "butt"), ("stroke-linejoin".toList, some "miter"),
    ("stroke-miterlimit".toList, some "4"), ("stroke-opacity".toList, some "1"),
    ("stroke-width".toList, some "1"), ("visibility".toList, some "visible")]

/-- The painting attributes that are not handed down: they belong to the element that has them. -/
def personalNames : List Text := ["display".toList, "opacity".toList]

/-- The namespace of drawings. -/
def svgNamespace : Text := "http://www.w3.org/2000/svg".toList

/-- The namespace of links. -/
def linkNamespace : Text := "http://www.w3.org/1999/xlink".toList

/-! ### Values -/

/-- The first attribute of a name. -/
def Attributes.setting? (own : Attributes) (name : Text) : Option Setting :=
  List.find? (fun setting => setting.name = name) own

/-- The value of an attribute. -/
def Attributes.find? (own : Attributes) (name : String) : Option Text :=
  (own.setting? name.toList).map (·.value)

/-- The nearest attribute of a name. -/
def Surroundings.setting? (around : Surroundings) (name : Text) : Option Setting :=
  around.findSome? fun attributes => attributes.setting? name

/-- The nearest value of an attribute. -/
def Surroundings.find? (around : Surroundings) (name : String) : Option Text :=
  (around.setting? name.toList).map (·.value)

/-! ### Inheritance -/

/-- What an attribute is that asks to be inherited: that of the nearest element around, or of the
next one if it is not handed down, or what it is where nothing is set. -/
def Surroundings.inherited? (around : Surroundings) (name : Text) (unset : Option String) :
    Option Setting :=
  let nearest? :=
    if personalNames.contains name then around.head?.bind (·.setting? name)
    else around.setting? name
  nearest? <|> unset.map fun value => ⟨name, value.toList, false⟩

/-- An attribute as it counts inside given surroundings. -/
def Surroundings.resolve? (around : Surroundings) (setting : Setting) : Option Setting :=
  match paintingNames.lookup setting.name with
  | some unset =>
    if setting.value = "inherit".toList then around.inherited? setting.name unset else some setting
  | none => some setting

/-! ### Declarations -/

/-- Attributes with one more: it replaces the first one of its name, unless that one is
important. -/
def Attributes.declare (added : Setting) : Attributes → Attributes
  | [] => [added]
  | setting :: others =>
    if setting.name = added.name then (if setting.important then setting else added) :: others
    else setting :: declare added others

/-- Attributes with a declaration inside given surroundings. -/
def Attributes.withDeclaration (around : Surroundings) (own : Attributes)
    (declaration : Declaration) : Attributes :=
  let setting : Setting := ⟨declaration.name, declaration.value, declaration.important⟩
  if (paintingNames.lookup declaration.name).isSome then
    match around.resolve? setting with
    | some added => own.declare added
    | none => own
  else own

/-- Whether an attribute is of the drawing. -/
def isOurAttribute (written : Xml.Attribute) : Bool :=
  match written.name.space? with
  | none => true
  | some place => place == svgNamespace || place == linkNamespace || place == Xml.xmlNamespace

/-- The style that is written at an element. -/
def styleOf (written : List Xml.Attribute) : Text :=
  ((written.find? fun given => given.name == ⟨none, "style".toList⟩).map (·.value)).getD []

/-- The attributes of an element inside given surroundings: the plain ones, and then the
declarations of its style. -/
def Attributes.own (around : Surroundings) (written : List Xml.Attribute) : Attributes :=
  let plain := (written.filter isOurAttribute).filterMap fun given =>
    around.resolve? ⟨given.name.name, given.value, false⟩
  (declarations (styleOf written)).foldl (Attributes.withDeclaration around) plain

end IconComponents.Svg
