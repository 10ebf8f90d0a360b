/-
**Keeping `currentColor` through minification.**

Minification writes every colour as a number, but `currentColor` has to stay a word. So it is masked
beforehand by a colour that the icon does not use, and that colour is turned back afterwards.

* `mask?` — the masked text and the colour that masks, if the word occurs and a colour is free;
* `unmask` — the text with that colour turned back.
-/

import IconComponents.Text.Scan
import IconComponents.Text.WordCharacter

namespace IconComponents

/-- The word for the colour that surrounds an icon. -/
def currentColor : Text := "currentColor".toList

/-- Reads a longest run of word characters. -/
def wordRun : Recogniser Text
  | [] => none
  | c :: text =>
    if Char.isWord c then
      some ⟨c :: text.takeWhile Char.isWord, text.dropWhile Char.isWord,
        Nat.lt_succ_of_le (Text.length_dropWhile_le _ text)⟩
    else none

/-- Whether a word is `currentColor` in some letter case. -/
def isCurrentColor (word : Text) : Bool := Text.sameIgnoringCase word currentColor

/-- Whether a text has `currentColor` as a whole word. -/
def mentionsCurrentColor (text : Text) : Bool := (wordRun.hits text).any isCurrentColor

/-- The colours that can mask: their red and blue are fixed, their green varies. -/
def maskColor (green : Nat) : Text :=
  "#fe".toList ++ [Nat.digitChar (green / 16), Nat.digitChar (green % 16)] ++ "fe".toList

/-- The first of the masking colours that a text does not use. -/
def freeColor? (text : Text) : Option Text :=
  ((List.range 256).map maskColor).find? fun color => !Text.contains (Text.lower text) color

/-- The text with every whole word `currentColor` replaced by a colour. -/
def maskWith (color text : Text) : Text :=
  wordRun.rewrite (fun word => if isCurrentColor word then color else word) text

/-- The masked text and the colour that masks, if there is something to mask and a colour is
free. -/
def mask? (text : Text) : Option (Text × Text) :=
  if mentionsCurrentColor text then (freeColor? text).map fun color => (maskWith color text, color)
  else none

/-- The text with a masking colour turned back. -/
def unmask (color text : Text) : Text := Text.replaceAll color currentColor text

end IconComponents
