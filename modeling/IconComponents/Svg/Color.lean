/-
**Colours in drawings.**

A colour is a number of three or four bytes after `#`, one of the names of the standard in any
letter case, a list of its parts in `rgb(…)`, or a place in the circle of hues in `hsl(…)`. It is
written as `#` and three bytes.

* `Color.parse?` — the colour that a text is;
* `Color.text` — how a colour is written.
-/

import IconComponents.Svg.Number
import IconComponents.Text.Blank

namespace IconComponents.Svg

/-- A colour: its parts and its opacity, each from 0 to 255. -/
structure Color where
  red : Nat
  green : Nat
  blue : Nat
  alpha : Nat
  deriving Repr, DecidableEq

/-- The names of colours with their parts as one number. -/
def colorNames : List (String × Nat) :=
  [("aliceblue", 0xf0f8ff), ("antiquewhite", 0xfaebd7), ("aqua", 0x00ffff),
   ("aquamarine", 0x7fffd4), ("azure", 0xf0ffff), ("beige", 0xf5f5dc), ("bisque", 0xffe4c4),
   ("black", 0x000000), ("blanchedalmond", 0xffebcd), ("blue", 0x0000ff),
   ("blueviolet", 0x8a2be2), ("brown", 0xa52a2a), ("burlywood", 0xdeb887),
   ("cadetblue", 0x5f9ea0), ("chartreuse", 0x7fff00), ("chocolate", 0xd2691e),
   ("coral", 0xff7f50), ("cornflowerblue", 0x6495ed), ("cornsilk", 0xfff8dc),
   ("crimson", 0xdc143c), ("cyan", 0x00ffff), ("darkblue", 0x00008b), ("darkcyan", 0x008b8b),
   ("darkgoldenrod", 0xb8860b), ("darkgray", 0xa9a9a9), ("darkgreen", 0x006400),
   ("darkgrey", 0xa9a9a9), ("darkkhaki", 0xbdb76b), ("darkmagenta", 0x8b008b),
   ("darkolivegreen", 0x556b2f), ("darkorange", 0xff8c00), ("darkorchid", 0x9932cc),
   ("darkred", 0x8b0000), ("darksalmon", 0xe9967a), ("darkseagreen", 0x8fbc8f),
   ("darkslateblue", 0x483d8b), ("darkslategray", 0x2f4f4f), ("darkslategrey", 0x2f4f4f),
   ("darkturquoise", 0x00ced1), ("darkviolet", 0x9400d3), ("deeppink", 0xff1493),
   ("deepskyblue", 0x00bfff), ("dimgray", 0x696969), ("dimgrey", 0x696969),
   ("dodgerblue", 0x1e90ff), ("firebrick", 0xb22222), ("floralwhite", 0xfffaf0),
   ("forestgreen", 0x228b22), ("fuchsia", 0xff00ff), ("gainsboro", 0xdcdcdc),
   ("ghostwhite", 0xf8f8ff), ("gold", 0xffd700), ("goldenrod", 0xdaa520), ("gray", 0x808080),
   ("green", 0x008000), ("greenyellow", 0xadff2f), ("grey", 0x808080), ("honeydew", 0xf0fff0),
   ("hotpink", 0xff69b4), ("indianred", 0xcd5c5c), ("indigo", 0x4b0082), ("ivory", 0xfffff0),
   ("khaki", 0xf0e68c), ("lavender", 0xe6e6fa), ("lavenderblush", 0xfff0f5),
   ("lawngreen", 0x7cfc00), ("lemonchiffon", 0xfffacd), ("lightblue", 0xadd8e6),
   ("lightcoral", 0xf08080), ("lightcyan", 0xe0ffff), ("lightgoldenrodyellow", 0xfafad2),
   ("lightgray", 0xd3d3d3), ("lightgreen", 0x90ee90), ("lightgrey", 0xd3d3d3),
   ("lightpink", 0xffb6c1), ("lightsalmon", 0xffa07a), ("lightseagreen", 0x20b2aa),
   ("lightskyblue", 0x87cefa), ("lightslategray", 0x778899), ("lightslategrey", 0x778899),
   ("lightsteelblue", 0xb0c4de), ("lightyellow", 0xffffe0), ("lime", 0x00ff00),
   ("limegreen", 0x32cd32), ("linen", 0xfaf0e6), ("magenta", 0xff00ff), ("maroon", 0x800000),
   ("mediumaquamarine", 0x66cdaa), ("mediumblue", 0x0000cd), ("mediumorchid", 0xba55d3),
   ("mediumpurple", 0x9370db), ("mediumseagreen", 0x3cb371), ("mediumslateblue", 0x7b68ee),
   ("mediumspringgreen", 0x00fa9a), ("mediumturquoise", 0x48d1cc), ("mediumvioletred", 0xc71585),
   ("midnightblue", 0x191970), ("mintcream", 0xf5fffa), ("mistyrose", 0xffe4e1),
   ("moccasin", 0xffe4b5), ("navajowhite", 0xffdead), ("navy", 0x000080), ("oldlace", 0xfdf5e6),
   ("olive", 0x808000), ("olivedrab", 0x6b8e23), ("orange", 0xffa500), ("orangered", 0xff4500),
   ("orchid", 0xda70d6), ("palegoldenrod", 0xeee8aa), ("palegreen", 0x98fb98),
   ("paleturquoise", 0xafeeee), ("palevioletred", 0xdb7093), ("papayawhip", 0xffefd5),
   ("peachpuff", 0xffdab9), ("peru", 0xcd853f), ("pink", 0xffc0cb), ("plum", 0xdda0dd),
   ("powderblue", 0xb0e0e6), ("purple", 0x800080), ("red", 0xff0000), ("rosybrown", 0xbc8f8f),
   ("royalblue", 0x4169e1), ("saddlebrown", 0x8b4513), ("salmon", 0xfa8072),
   ("sandybrown", 0xf4a460), ("seagreen", 0x2e8b57), ("seashell", 0xfff5ee),
   ("sienna", 0xa0522d), ("silver", 0xc0c0c0), ("skyblue", 0x87ceeb), ("slateblue", 0x6a5acd),
   ("slategray", 0x708090), ("slategrey", 0x708090), ("snow", 0xfffafa),
   ("springgreen", 0x00ff7f), ("steelblue", 0x4682b4), ("tan", 0xd2b48c), ("teal", 0x008080),
   ("thistle", 0xd8bfd8), ("tomato", 0xff6347), ("turquoise", 0x40e0d0), ("violet", 0xee82ee),
   ("wheat", 0xf5deb3), ("white", 0xffffff), ("whitesmoke", 0xf5f5f5), ("yellow", 0xffff00),
   ("yellowgreen", 0x9acd32)]

namespace Color

/-- An opaque colour with its parts as one number. -/
def ofNumber (number : Nat) : Color :=
  ⟨number / 65536 % 256, number / 256 % 256, number % 256, 255⟩

/-- Black. -/
def black : Color := ofNumber 0

/-- The colour that hexadecimal digits write: one digit or two for each part. -/
def ofDigits? : List Nat → Option Color
  | [r, g, b] => some ⟨17 * r, 17 * g, 17 * b, 255⟩
  | [r, g, b, a] => some ⟨17 * r, 17 * g, 17 * b, 17 * a⟩
  | [r, s, g, h, b, c] => some ⟨16 * r + s, 16 * g + h, 16 * b + c, 255⟩
  | [r, s, g, h, b, c, a, z] => some ⟨16 * r + s, 16 * g + h, 16 * b + c, 16 * a + z⟩
  | _ => none

/-- The whole number nearest to a number, a half going up, and not outside of a byte. -/
def byteOf {format : Format} (n : Binary format) : Nat :=
  if n.isFinite then min 255 (n.toRat + 1 / 2).floor.toNat
  else if n.isNegative then 0
  else 255

/-- A whole number in double precision. -/
def whole (n : Int) : Double := .ofInt .double n

/-- A share of one: a number, or a percentage. -/
def share? (text : Text) : Option (Double × Text) :=
  (number? text).map fun (value, rest) =>
    match rest with
    | '%' :: rest => (value / whole 100, skipComma rest)
    | rest => (value, skipComma rest)

/-- The opacity at the end of a list of parts, full if it is left out, and the text behind the
closing bracket. -/
def alpha? (text : Text) : Option (Nat × Text) := do
  let (alpha, rest) ← match Text.skipSpace text with
    | ')' :: _ => some (255, text)
    | text => (share? text).map fun (value, rest) => (byteOf (value * whole 255), rest)
  let rest ← Text.after? [')'] (Text.skipSpace rest)
  some (alpha, rest)

/-- The colour of a list of parts, behind its opening bracket, and the text behind it. The first
part says whether all are percentages or numbers up to 255. -/
def parts? (text : Text) : Option (Color × Text) := do
  let (value, rest) ← number? text
  match rest with
  | '%' :: rest => do
    let (green, rest) ← share? (skipComma rest)
    let (blue, rest) ← share? rest
    let (alpha, rest) ← alpha? rest
    let part := fun (n : Double) => byteOf (n * whole 255)
    some (⟨part (value / whole 100), part green, part blue, alpha⟩, rest)
  | rest => do
    let (green, rest) ← listNumber? (skipComma rest)
    let (blue, rest) ← listNumber? rest
    let (alpha, rest) ← alpha? rest
    some (⟨byteOf value, byteOf green, byteOf blue, alpha⟩, rest)

/-- The least of a share and one, but not less than zero, in single precision. -/
def clampShare (n : Double) : Single :=
  if !n.isPositive then .ofInt .single 0
  else (n.smaller (whole 1)).convert .single

/-- How strong a part is whose place in a circle of six steps is given; parts are between `low` and
`high`. -/
def strength (low high place : Single) : Single :=
  let n := fun (n : Int) => Binary.ofInt Format.single n
  let place := if place.less (n 0) then place + n 6 else place
  let place := if place.less (n 6) then place else place - n 6
  if place.less (n 1) then (high - low) * place + low
  else if place.less (n 3) then high
  else if place.less (n 4) then (high - low) * (n 4 - place) + low
  else low

/-- The colour of a hue in degrees, a saturation and a lightness. -/
def ofHue (degrees : Rat) (saturation lightness : Single) (alpha : Nat) : Color :=
  let n := fun (n : Int) => Binary.ofInt Format.single n
  let turned := degrees - 360 * (degrees / 360).floor
  let place := Binary.ofRat .single turned false / n 60
  let high :=
    if (Binary.ofRat .single (1 / 2) false).less lightness then
      lightness + saturation - lightness * saturation
    else lightness * (saturation + n 1)
  let low := lightness * n 2 - high
  let part := fun (place : Single) => byteOf (strength low high place * n 255)
  ⟨part (place + n 2), part place, part (place - n 2), alpha⟩

/-- The colour of a hue with its saturation and lightness, behind the opening bracket, and the text
behind it. -/
def hue? (text : Text) : Option (Color × Text) := do
  let (degrees, rest) ← listNumber? text
  let (saturation, rest) ← share? rest
  let (lightness, rest) ← share? rest
  let (alpha, rest) ← alpha? rest
  some (ofHue degrees.toRat (clampShare saturation) (clampShare lightness) alpha, rest)

/-- A colour at the front of a text, and the text behind it. -/
def read? (text : Text) : Option (Color × Text) :=
  match text with
  | '#' :: text =>
    let digits := (text.takeWhile Char.isHexDigit).map Char.digitValue
    (ofDigits? digits).map (·, text.dropWhile Char.isHexDigit)
  | text =>
    let isName := fun (c : Char) => c.isAlphanum || c = '-' || c = '_'
    let name := Text.lower (text.takeWhile isName)
    let rest := text.dropWhile isName
    if name = "rgb".toList || name = "rgba".toList then
      (Text.after? ['('] rest).bind parts?
    else if name = "hsl".toList || name = "hsla".toList then
      (Text.after? ['('] rest).bind hue?
    else if name = "transparent".toList then some (⟨0, 0, 0, 0⟩, rest)
    else
      (colorNames.find? fun (other, _) => other.toList == name).map fun (_, number) =>
        (ofNumber number, rest)

/-- The colour that a text is. -/
def parse? (text : Text) : Option Color :=
  match read? (Text.skipSpace text) with
  | some (color, rest) => if (Text.skipSpace rest).isEmpty then some color else none
  | none => none

/-- A byte as two hexadecimal digits. -/
def byteText (n : Nat) : Text := [Nat.digitChar (n / 16), Nat.digitChar (n % 16)]

/-- How a colour is written; its opacity is written elsewhere. -/
def text (color : Color) : Text :=
  '#' :: byteText color.red ++ byteText color.green ++ byteText color.blue

end Color

end IconComponents.Svg
