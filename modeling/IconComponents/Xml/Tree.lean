/-
**The tree of an XML document.**

Every closing tag has to close the innermost element that is open, every prefix has to be declared,
and no element has an attribute twice. A document that keeps these rules is a tree with one root.

* `Forest` — elements side by side, each with its attributes and with what is in it;
* `Builder.run` — the tree while tokens are read;
* `read` — the root of a document.
-/

import IconComponents.Xml.Token

namespace IconComponents.Xml

/-- A name in its namespace, if it has one. -/
structure Name where
  space? : Option Text
  name : Text
  deriving Repr, DecidableEq

/-- An attribute. -/
structure Attribute where
  name : Name
  value : Text
  deriving Repr, DecidableEq

/-- Elements side by side, with what is in each of them, and words, comments and instructions, which
are no elements (`aside`). -/
inductive Forest where
  | empty
  | aside (behind : Forest)
  | element (name : Name) (attributes : List Attribute) (inside behind : Forest)
  deriving Repr, DecidableEq

/-! ### Namespaces -/

/-- The namespaces of prefixes; the empty prefix is the default. -/
abbrev Scope := List (Text × Text)

/-- The prefix that declares prefixes. -/
def declaringPrefix : Text := "xmlns".toList

/-- The prefix that every document declares. -/
def xmlPrefix : Text := "xml".toList

/-- The namespace that every document declares. -/
def xmlNamespace : Text := "http://www.w3.org/XML/1998/namespace".toList

/-- The namespace of declarations. -/
def declaringNamespace : Text := "http://www.w3.org/2000/xmlns/".toList

/-- The namespace of a prefix. -/
def Scope.find (scope : Scope) (lead place : Text) : Except Error (Option Text) :=
  match scope.lookup lead with
  | some uri => .ok (some uri)
  | none => if lead.isEmpty then .ok none else .error (.here (.unknownNamespace lead) place)

/-- What an attribute declares: a prefix with its namespace, or nothing new; none if it is no
declaration. -/
def declared? (name : QualifiedName) (value place : Text) (own : Scope) :
    Except Error (Option Scope) :=
  if name.lead = declaringPrefix then
    if value = declaringNamespace then .error (.here .reservedDeclarationNamespace place)
    else if name.name = xmlPrefix then
      if value = xmlNamespace then .ok (some []) else .error (.here .wrongXmlNamespace place)
    else if value = xmlNamespace then .error (.here .reservedXmlNamespace place)
    else if (own.lookup name.name).isSome then
      .error (.here (.duplicateNamespace name.name) place)
    else .ok (some [(name.name, value)])
  else if name.name = declaringPrefix then
    if value = xmlNamespace then .error (.here .reservedXmlNamespace place)
    else if value = declaringNamespace then .error (.here .reservedDeclarationNamespace place)
    else .ok (some [([], value)])
  else .ok none

/-! ### Opening tags -/

/-- An attribute whose references are replaced, and the document from its start on. -/
structure DecodedAttribute where
  name : QualifiedName
  value : Text
  place : Text
  deriving Repr, DecidableEq

/-- An opening tag while its attributes are read: the name of the element, the document from the
tag on, the prefixes that it declares, the first ones first, and its attributes apart from
declarations. -/
structure OpeningTag where
  name : QualifiedName
  place : Text
  scope : Scope
  attributes : List DecodedAttribute
  deriving Repr, DecidableEq

/-- The attributes of an element in their namespaces. -/
def resolve (scope : Scope) : List DecodedAttribute → List Attribute →
    Except Error (List Attribute)
  | [], found => .ok found.reverse
  | decoded :: others, found => do
    let lead := decoded.name.lead
    let space? ←
      if lead = xmlPrefix then .ok (some xmlNamespace)
      else if lead.isEmpty then .ok none
      else scope.find lead decoded.place
    let name : Name := ⟨space?, decoded.name.name⟩
    if found.any (·.name == name) then
      .error (.here (.duplicateAttribute name.name) decoded.place)
    else resolve scope others (⟨name, decoded.value⟩ :: found)

/-! ### Nesting -/

/-- A token that makes the tree, with its names in their namespaces: the start or the end of an
element, or what is no element. -/
inductive PlacedToken where
  | opening (name : Name) (attributes : List Attribute)
  | closing
  | aside
  deriving Repr, DecidableEq

/-- An element that is open: its name, and the scope inside it. -/
abbrev OpenElement := QualifiedName × Scope

/-- What is known of a tree while its tokens are read: the elements that are open, the innermost
first, the opening tag that was read last, and whether there is one in the same text, how many
references were followed inside the outermost entity, and what makes the tree, the last part
first. -/
structure Builder where
  stack : List OpenElement
  tag : OpeningTag
  hasTag : Bool
  references : Nat
  placed : List PlacedToken
  deriving Repr, DecidableEq

namespace Builder

/-- A tree of which nothing is read. -/
def fresh : Builder := ⟨[], ⟨⟨[], []⟩, [], [], []⟩, false, 0, []⟩

/-- Read an attribute of the opening tag; `levels` is how much deeper references can go. -/
def give (builder : Builder) (entities : Entities) (levels : Nat)
    (written : WrittenAttribute) : Except Error Builder := do
  let (value, references) ← decode entities levels builder.references written.behind written.value
  let tag := builder.tag
  match ← declared? written.name value written.place tag.scope with
  | some more => .ok { builder with references, tag := { tag with scope := tag.scope ++ more } }
  | none =>
    let attributes := tag.attributes ++ [⟨written.name, value, written.place⟩]
    .ok { builder with references, tag := { tag with attributes } }

/-- End the opening tag: what starts the element, and the scope inside it. -/
def start (builder : Builder) : Except Error (PlacedToken × Scope) := do
  let tag := builder.tag
  let scope := tag.scope ++ (builder.stack.head?.map (·.2)).getD []
  let attributes ← resolve scope tag.attributes []
  let space? ← scope.find tag.name.lead (tag.place.drop 1)
  .ok (.opening ⟨space?, tag.name.name⟩ attributes, scope)

/-- End an element. -/
def close (builder : Builder) (name : QualifiedName) (place : Text) : Except Error Builder :=
  match builder.stack with
  | [] => .error (.here .unknownToken place)
  | (expected, _) :: stack =>
    if !builder.hasTag then .error (.here .closeInEntity place)
    else if expected = name then .ok { builder with stack, placed := .closing :: builder.placed }
    else .error (.here (.wrongClose expected.text name.text) place)

/-- Read a token that is no reference. -/
def step (builder : Builder) (entities : Entities) (levels : Nat) : Token → Except Error Builder
  | .opening name place =>
    if name.lead = declaringPrefix then .error (.here .declarationPrefix (place.drop 1))
    else .ok { builder with tag := ⟨name, place, [], []⟩, hasTag := true }
  | .given written => builder.give entities levels written
  | .inside => do
    let (opening, scope) ← builder.start
    .ok { builder with
      stack := (builder.tag.name, scope) :: builder.stack
      placed := opening :: builder.placed }
  | .vacant => do
    let (opening, _) ← builder.start
    .ok { builder with placed := .closing :: opening :: builder.placed }
  | .closing name place => builder.close name place
  | .aside => .ok { builder with placed := .aside :: builder.placed }
  | .expansion _ _ => .ok builder
  | .fault error => .error error

/-- Read tokens. The text of an entity is read in place of a reference to it, by `deeper?`, if
references can go deeper at all; `levels` is how much. -/
def runWith (entities : Entities) (levels : Nat)
    (deeper? : Option (Builder → List Token → Except Error Builder)) (builder : Builder) :
    List Token → Except Error Builder
  | [] => .ok builder
  | .expansion passage behind :: tokens =>
    match countReference? levels builder.references, deeper? with
    | some references, some deeper => do
      let inner ← deeper { builder with hasTag := false, references } (passage.tokens entities)
      runWith entities levels deeper?
        { inner with
          hasTag := builder.hasTag
          references := countBehind levels inner.references } tokens
    | _, _ => .error (.here .entityLoop behind)
  | token :: tokens => do
    runWith entities levels deeper? (← builder.step entities levels token) tokens

/-- Read tokens whose references can go `levels` deeper. -/
def run (entities : Entities) : Nat → Builder → List Token → Except Error Builder
  | 0 => runWith entities 0 none
  | levels + 1 => runWith entities (levels + 1) (some (run entities levels))

end Builder

/-! ### Trees -/

/-- Put a token in front of what was read behind it: the elements of its own level, then those
behind the element around it, and so on outwards. -/
def plant : PlacedToken → List Forest → List Forest
  | .closing, levels => .empty :: levels
  | .opening name attributes, inside :: behind :: outer =>
    .element name attributes inside behind :: outer
  | .aside, behind :: outer => .aside behind :: outer
  | _, levels => levels

/-- The elements of well nested tokens. -/
def forestOf (tokens : List PlacedToken) : Forest :=
  ((tokens.foldr plant [.empty]).head?).getD .empty

/-- The root of a document. -/
def read (text : Text) : Except Error Forest := do
  let (entities, tokens) := tokensOf text
  let builder ← Builder.run entities deepestReference .fresh tokens
  if builder.placed.isEmpty then .error .noRoot
  else if !builder.stack.isEmpty then .error .unclosedRoot
  else .ok (forestOf builder.placed.reverse)

end IconComponents.Xml
