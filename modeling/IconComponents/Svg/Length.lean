/-
**Lengths in drawings.**

A length is a number with a unit. It is measured in pixels, a percentage on what it is taken of.

* `Length.parse?`, `Length.list` — the length that a text is, and the lengths of a list;
* `Length.pixels` — a length in pixels.
-/

import IconComponents.Svg.Number

namespace IconComponents.Svg

/-- The unit of a length. -/
inductive Unit where
  | none
  | em
  | ex
  | pixel
  | inch
  | centimetre
  | millimetre
  | point
  | pica
  | percent
  deriving Repr, DecidableEq

/-- The units by their names. -/
def units : List (Text × Unit) :=
  [("%".toList, .percent), ("em".toList, .em), ("ex".toList, .ex), ("px".toList, .pixel),
    ("in".toList, .inch), ("cm".toList, .centimetre), ("mm".toList, .millimetre),
    ("pt".toList, .point), ("pc".toList, .pica)]

/-- The unit at the front of a text, and the text behind it. -/
def Unit.read (text : Text) : Unit × Text :=
  let unit? := units.findSome? fun (name, unit) =>
    (Text.after? name text).map fun behind => (unit, behind)
  unit?.getD (.none, text)

/-- What is left after a unit is no longer than the text. -/
theorem Unit.length_read_le (text : Text) : (Unit.read text).2.length ≤ text.length := by
  unfold Unit.read
  simp only
  cases found : units.findSome? fun (name, unit) =>
      (Text.after? name text).map fun behind => (unit, behind) with
  | none => simp
  | some pair =>
    obtain ⟨⟨name, _⟩, -, matched⟩ := List.exists_of_findSome?_eq_some found
    obtain ⟨behind, after, rfl⟩ := Option.map_eq_some_iff.mp matched
    have := congrArg List.length (Text.after?_eq_some_iff.mp after)
    simp only [List.length_append] at this
    simp only [Option.getD_some]
    omega

/-- A number with a unit. -/
structure Length where
  number : Double
  unit : Unit
  deriving Repr, DecidableEq

namespace Length

/-- A length at the front of a text, and the text behind it. -/
def read? (text : Text) : Option (Length × Text) :=
  (number? text).map fun (value, rest) =>
    (⟨value, (Unit.read rest).1⟩, (Unit.read rest).2)

/-- A length is read from the front. -/
theorem length_lt_of_read? {text rest : Text} {length : Length}
    (found : read? text = some (length, rest)) : rest.length < text.length := by
  obtain ⟨⟨_, behind⟩, number, same⟩ := Option.map_eq_some_iff.mp found
  obtain ⟨-, rfl⟩ := Prod.mk.inj same
  exact Nat.lt_of_le_of_lt (Unit.length_read_le behind) (length_lt_of_number? number)

/-- The length that a text is; white space can stand before it, but nothing behind it. -/
def parse? (text : Text) : Option Length :=
  match read? text with
  | some (length, []) => some length
  | _ => none

/-- The lengths of a list; one that is malformed ends it. -/
def list (text : Text) : List Length :=
  match found : read? text with
  | none => []
  | some (length, rest) =>
    have : (skipComma rest).length < text.length :=
      Nat.lt_of_le_of_lt (length_skipComma_le rest) (length_lt_of_read? found)
    length :: list (skipComma rest)
termination_by text.length

/-- A whole number in single precision. -/
def whole (n : Int) : Single := .ofInt .single n

/-- How many pixels an inch has. -/
def pixelsPerInch : Single := whole 96

/-- The size of letters, where none is set. -/
def letterSize : Single := whole 12

/-- The length in pixels; `base` is what a percentage is taken of. -/
def pixels (length : Length) (base : Single) : Single :=
  let n := length.number.convert .single
  let tenths := fun (units : Nat) (power : Int) => Binary.ofDecimal Format.single false units power
  match length.unit with
  | .none => n
  | .pixel => n
  | .em => n * letterSize
  | .ex => n * letterSize / whole 2
  | .inch => n * pixelsPerInch
  | .centimetre => n * pixelsPerInch / tenths 254 (-2)
  | .millimetre => n * pixelsPerInch / tenths 254 (-1)
  | .point => n * pixelsPerInch / whole 72
  | .pica => n * pixelsPerInch / whole 6
  | .percent => base * n / whole 100

end Length

end IconComponents.Svg
