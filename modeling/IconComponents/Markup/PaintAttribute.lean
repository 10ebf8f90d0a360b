/-
**The fill and stroke values of an icon.**

An icon is coloured by its `fill` and `stroke` attributes. Both are found in the text of the
markup, as `name="value"`; values that start with `none` paint nothing and are left out. Each
distinct written attribute is one colour of the icon, and its place in the sorted list is its
index.

* `PaintAttribute.recognise` — an attribute at the front of a text;
* `PaintAttribute.written` — the text of an attribute with a given value;
* `Occurrences.extract` — the distinct written attributes of a markup, sorted.
-/

import IconComponents.Text.Scan

namespace IconComponents

/-- The attributes that colour a shape, its inside and its outline. -/
inductive PaintAttribute where
  | fill
  | stroke
  deriving Repr, DecidableEq

namespace PaintAttribute

/-- The attribute's name in markup, and of the component property made from it. -/
def name : PaintAttribute → Text
  | fill => "fill".toList
  | stroke => "stroke".toList

/-- The text before an attribute's value. -/
def opening (paint : PaintAttribute) : Text := paint.name ++ ['=', '"']

/-- An attribute as it is written with a given value. -/
def written (paint : PaintAttribute) (value : Text) : Text :=
  paint.opening ++ value ++ ['"']

/-- Behind an attribute the text is shorter. -/
theorem length_lt_of_recognised {paint : PaintAttribute} {text after value rest : Text}
    (start : Text.after? paint.opening text = some after)
    (quoted : Text.quotedEnd? after = some (value, rest)) : rest.length < text.length := by
  have := Text.length_lt_of_quotedEnd? quoted
  rw [Text.after?_eq_some_iff.mp start, List.length_append]
  omega

/-- Reads an attribute at the front of a text and gives its value. -/
def recognise (paint : PaintAttribute) : Recogniser Text := fun text =>
  match start : Text.after? paint.opening text with
  | none => none
  | some after =>
    match quoted : Text.quotedEnd? after with
    | none => none
    | some (value, rest) => some ⟨value, rest, length_lt_of_recognised start quoted⟩

end PaintAttribute

/-- A value that paints nothing. -/
def isUnpainted (value : Text) : Bool := Text.startsWith value "none".toList

/-- The distinct written occurrences of one attribute, in index order, which is that of code
points. -/
structure Occurrences where
  paint : PaintAttribute
  texts : List Text
  deriving Repr, DecidableEq

namespace Occurrences

/-- The painted occurrences of an attribute in a markup. -/
def extract (markup : Text) (paint : PaintAttribute) : Occurrences where
  paint
  texts := Text.sortedDistinct
    (((paint.recognise.hits markup).filter (!isUnpainted ·)).map paint.written)

/-- Whether the markup has no such colour. -/
def isEmpty (occurrences : Occurrences) : Bool := occurrences.texts.isEmpty

/-- How many colours there are. -/
def size (occurrences : Occurrences) : Nat := occurrences.texts.length

/-- Whether there is more than one colour, so that the property is a list. -/
def isMultiple (occurrences : Occurrences) : Bool := 1 < occurrences.size

/-- The values in index order, read back from the occurrences. -/
def values (occurrences : Occurrences) : List Text :=
  occurrences.texts.filterMap fun text =>
    (occurrences.paint.recognise.find? text).map fun (_, value, _) => value

end Occurrences

end IconComponents
