/-
**Numbers in drawings.**

A number is written with an optional sign, digits with an optional point among them, and an optional
exponent; it is read in double precision. In a list a comma can follow each number.

* `Svg.number?`, `Svg.listNumber?` — a number at the front of a text, alone and in a list;
* `Svg.single?` — the number that a text is.
-/

import IconComponents.Number.Binary
import IconComponents.Text.Blank
import IconComponents.Text.Digits

namespace IconComponents.Svg

/-- A sign, if there is one: whether it is a minus, and the text behind it. -/
def sign : Text → Bool × Text
  | '-' :: text => (true, text)
  | '+' :: text => (false, text)
  | text => (false, text)

/-- A whole number with an optional sign at the front of a text, and the text behind it. -/
def power? (text : Text) : Option (Int × Text) :=
  let (negative, digits) := sign text
  let run := digits.takeWhile Char.isDigit
  if run.isEmpty then none
  else
    some (if negative then -(Text.numberOf 10 run : Int) else Text.numberOf 10 run,
      digits.dropWhile Char.isDigit)

/-- The exponent at the front of a text, and the text behind it: zero if there is none, nothing if
it is malformed. The units `em` and `ex` are no exponents. -/
def exponent? (text : Text) : Option (Int × Text) :=
  match text with
  | [] => some (0, [])
  | e :: rest =>
    if e != 'e' && e != 'E' || rest.head? == some 'm' || rest.head? == some 'x' then some (0, text)
    else power? rest

/-- The digits at the front of a text with a point among them: all digits, how many of them stand
behind the point, and the text behind them. -/
def mantissa? (text : Text) : Option (Text × Nat × Text) :=
  let whole := text.takeWhile Char.isDigit
  match text.dropWhile Char.isDigit with
  | '.' :: rest =>
    let fraction := rest.takeWhile Char.isDigit
    if whole.isEmpty && fraction.isEmpty then none
    else some (whole ++ fraction, fraction.length, rest.dropWhile Char.isDigit)
  | rest => if whole.isEmpty then none else some (whole, 0, rest)

/-- A number at the front of a text, and the text behind it. Numbers beyond the range of double
precision are none. -/
def number? (text : Text) : Option (Double × Text) :=
  let (negative, unsigned) := sign (Text.skipSpace text)
  match mantissa? unsigned with
  | none => none
  | some (digits, places, behind) =>
    match exponent? behind with
    | none => none
    | some (power, rest) =>
      let value := Binary.ofDecimal .double negative (Text.numberOf 10 digits) (power - places)
      if value.isFinite then some (value, rest) else none

/-- The text behind white space and a comma. -/
def skipComma (text : Text) : Text :=
  match Text.skipSpace text with
  | ',' :: rest => rest
  | rest => rest

/-- A number in a list, and the text behind it and its comma. -/
def listNumber? (text : Text) : Option (Double × Text) :=
  (number? text).map fun (value, rest) => (value, skipComma rest)

/-! ### Progress -/

/-- What is left after a comma is no longer than the text. -/
theorem length_skipComma_le (text : Text) : (skipComma text).length ≤ text.length := by
  have skipped := Text.length_skipSpace_le text
  unfold skipComma
  split
  · next rest comma =>
    rw [comma, List.length_cons] at skipped
    omega
  · exact skipped

/-- What is left after a sign is no longer than the text. -/
theorem length_sign_le (text : Text) : (sign text).2.length ≤ text.length := by
  unfold sign
  split <;> simp

/-- A whole number is read from the front. -/
theorem length_le_of_power? {text rest : Text} {power : Int}
    (found : power? text = some (power, rest)) : rest.length ≤ text.length := by
  have signed := length_sign_le text
  unfold power? at found
  simp only at found
  split at found
  · exact absurd found (by simp)
  · obtain ⟨-, rfl⟩ := Prod.mk.inj (Option.some.inj found)
    exact Nat.le_trans (Text.length_dropWhile_le _ _) signed

/-- An exponent is read from the front. -/
theorem length_le_of_exponent? {text rest : Text} {power : Int}
    (found : exponent? text = some (power, rest)) : rest.length ≤ text.length := by
  unfold exponent? at found
  split at found
  · obtain ⟨-, rfl⟩ := Prod.mk.inj (Option.some.inj found)
    exact Nat.le_refl _
  · split at found
    · obtain ⟨-, rfl⟩ := Prod.mk.inj (Option.some.inj found)
      exact Nat.le_refl _
    · exact Nat.le_succ_of_le (length_le_of_power? found)

/-- The digits of a number are read from the front, at least a digit or a point. -/
theorem length_lt_of_mantissa? {text digits rest : Text} {places : Nat}
    (found : mantissa? text = some (digits, places, rest)) : rest.length < text.length := by
  have whole := congrArg List.length
    (List.takeWhile_append_dropWhile (p := Char.isDigit) (l := text))
  rw [List.length_append] at whole
  unfold mantissa? at found
  split at found
  · next behind point =>
    simp only at found
    split at found
    · exact absurd found (by simp)
    · obtain ⟨-, -, rfl⟩ := by simpa using found
      have fraction := Text.length_dropWhile_le Char.isDigit behind
      rw [point, List.length_cons] at whole
      omega
  · simp only at found
    split at found
    · exact absurd found (by simp)
    · next nonempty =>
      obtain ⟨-, -, rfl⟩ := by simpa using found
      have : 0 < (text.takeWhile Char.isDigit).length :=
        List.length_pos_iff.mpr (by simpa using nonempty)
      omega

/-- A number is read from the front. -/
theorem length_lt_of_number? {text rest : Text} {value : Double}
    (found : number? text = some (value, rest)) : rest.length < text.length := by
  have skipped := Text.length_skipSpace_le text
  have signed := length_sign_le (Text.skipSpace text)
  unfold number? at found
  simp only at found
  split at found
  · exact absurd found (by simp)
  · next digits places behind mantissa =>
    have := length_lt_of_mantissa? mantissa
    split at found
    · exact absurd found (by simp)
    · next power tail exponent =>
      have := length_le_of_exponent? exponent
      split at found
      · obtain ⟨-, rfl⟩ := Prod.mk.inj (Option.some.inj found)
        omega
      · exact absurd found (by simp)

/-- A number in a list is read from the front. -/
theorem length_lt_of_listNumber? {text rest : Text} {value : Double}
    (found : listNumber? text = some (value, rest)) : rest.length < text.length := by
  obtain ⟨⟨_, behind⟩, number, same⟩ := Option.map_eq_some_iff.mp found
  obtain ⟨-, rfl⟩ := Prod.mk.inj same
  exact Nat.lt_of_le_of_lt (length_skipComma_le behind) (length_lt_of_number? number)

/-! ### Whole texts -/

/-- The number that a text is, in single precision; white space can stand around it. -/
def single? (text : Text) : Option Single :=
  match number? text with
  | some (value, rest) =>
    if (Text.skipSpace rest).isEmpty then some (value.convert .single) else none
  | none => none

end IconComponents.Svg
