/-
**The svg tag.**

The root of an icon is the first `<svg …>` of its text: the name must end there, and the tag runs
to the next closing bracket. The inside of the tag is what stands between the name and that
bracket.

* `SvgTag.recognise`, `SvgTag.find?` — the tag at the front of a text, and the first one in it;
* `SvgTag.inside` — the inside as attributes and whether a slash closes the tag at once;
* `stripRootSize` — the markup without the `width` and `height` of its root.
-/

import IconComponents.Text.Blank
import IconComponents.Text.Scan
import IconComponents.Text.WordCharacter

namespace IconComponents

namespace SvgTag

/-- The text that starts an svg tag. -/
def opening : Text := "<svg".toList

/-- Reads an svg tag and gives its inside. -/
def recognise : Recogniser Text := fun text =>
  match start : Text.after? opening text with
  | none => none
  | some after =>
    if Text.wordEnds after then
      match tail : after.dropWhile (· != '>') with
      | [] => none
      | _ :: rest =>
        some ⟨after.takeWhile (· != '>'), rest, by
          have := Text.length_dropWhile_le (· != '>') after
          rw [tail] at this
          rw [Text.after?_eq_some_iff.mp start, List.length_append]
          simp only [List.length_cons] at this
          omega⟩
    else none

/-- The text before the first svg tag, the tag's inside, and the text after it. -/
def find? (text : Text) : Option (Text × Text × Text) := Recogniser.find? recognise text

/-- The tag with a given inside. -/
def written (inside : Text) : Text := opening ++ inside ++ ['>']

/-- What the inside of a tag says: its attributes without the white space after them, and whether
the tag closes at once. -/
structure Inside where
  attributes : Text
  closed : Bool
  deriving Repr, DecidableEq

/-- Split the inside of a tag. -/
def inside (text : Text) : Inside :=
  if text.getLast? = some '/' then ⟨Text.trimEnd text.dropLast, true⟩
  else ⟨Text.trimEnd text, false⟩

end SvgTag

/-- A size attribute and the white space before it. -/
structure SizeAttribute where
  value : Text
  deriving Repr, DecidableEq

namespace SizeAttribute

/-- What follows `width="` or `height="`. -/
def afterName? (text : Text) : Option Text :=
  match Text.after? "width=\"".toList text with
  | some rest => some rest
  | none => Text.after? "height=\"".toList text

theorem length_lt_of_afterName? {text rest : Text} (found : afterName? text = some rest) :
    rest.length < text.length := by
  unfold afterName? at found
  split at found
  · next start =>
    exact Option.some.inj found ▸ Text.length_lt_of_after? (by decide) start
  · exact Text.length_lt_of_after? (by decide) found

/-- Reads one white space character and a `width` or `height` attribute. -/
def recognise : Recogniser SizeAttribute
  | [] => none
  | blank :: text =>
    if Char.isBlank blank then
      match start : afterName? text with
      | none => none
      | some after =>
        match quoted : Text.quotedEnd? after with
        | none => none
        | some (value, rest) =>
          some ⟨⟨value⟩, rest, Nat.lt_succ_of_lt (Nat.lt_trans
            (Text.length_lt_of_quotedEnd? quoted) (length_lt_of_afterName? start))⟩
    else none

end SizeAttribute

/-- The markup without the size attributes of its root tag, so that the component sets them. -/
def stripRootSize (markup : Text) : Text :=
  match SvgTag.find? markup with
  | none => markup
  | some (before, inside, rest) =>
    before ++ SvgTag.written (Recogniser.rewrite SizeAttribute.recognise (fun _ => []) inside) ++
      rest

end IconComponents
