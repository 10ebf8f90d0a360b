/-
**Placeholders for colours.**

Where the icon wrote a colour, the component writes a reference to its property: `fill={fill}` for
the only colour, `fill={fill[i]}` for the colour with index `i` of several. `Occurrences.install`
puts them in, one occurrence after the other in index order.
-/

import IconComponents.Markup.PaintAttribute

namespace IconComponents

/-- The reference to an attribute's property, to one of its members if an index is given. -/
def PaintAttribute.placeholder (paint : PaintAttribute) (index? : Option Nat) : Text :=
  let name := paint.name
  match index? with
  | none => name ++ "=\x7b".toList ++ name ++ "\x7d".toList
  | some index => name ++ "=\x7b".toList ++ name ++ "[".toList ++ Text.ofNat index ++ "]\x7d".toList

namespace Occurrences

/-- The placeholder that stands for the occurrence with a given index. -/
def placeholder (occurrences : Occurrences) (index : Nat) : Text :=
  occurrences.paint.placeholder (if occurrences.isMultiple then some index else none)

/-- Replace every occurrence by its placeholder, in index order. -/
def install (occurrences : Occurrences) (markup : Text) : Text :=
  occurrences.texts.zipIdx.foldl
    (fun markup (text, index) => Text.replaceAll text (occurrences.placeholder index) markup) markup

end Occurrences

end IconComponents
