/-
**Words and letter case.**

A text is cut into words after it was spelled in ASCII: a word is a stretch of letters and digits,
and a new one starts where a small letter is followed by a capital and where a letter meets a
digit. Both spellings of a name are made of these words. How a text is spelled in ASCII is an
argument; `Text.transliterate` is one way.

* `words`, `wordsBy` — the words of a text, in order;
* `titleCase`, `titleCaseBy` — each word with its first letter capital, joined without separator
  (`TimeFast`);
* `kebabCase`, `kebabCaseBy` — each word in small letters, joined by hyphens (`time-fast`).
-/

import IconComponents.Text.Transliteration

namespace IconComponents.Name

/-- Two neighbouring letters or digits between which a new word starts. -/
def isBoundary (left right : Char) : Bool :=
  (left.isLower && right.isUpper) || left.isDigit != right.isDigit

/-- Put a character in front of the first word. -/
def extendFirst (c : Char) : List Text → List Text
  | [] => [[c]]
  | word :: words => (c :: word) :: words

/-- The words of an ASCII text. A letter or digit joins the word that the next character starts,
unless a boundary lies between the two. -/
def cutWords : Text → List Text
  | [] => []
  | c :: text =>
    if c.isAlphanum then
      match text with
      | [] => [[c]]
      | next :: _ =>
        if next.isAlphanum && !isBoundary c next then extendFirst c (cutWords text)
        else [c] :: cutWords text
    else cutWords text

/-- A word with its first letter capital. -/
def capitalise : Text → Text
  | [] => []
  | c :: word => c.toUpper :: word

section Spelling

variable (spell : Text → Text)

/-- The words of a text, cut after it was spelled. -/
def wordsBy (text : Text) : List Text := cutWords (spell text)

/-- The words of a text, each with its first letter capital, without separator. -/
def titleCaseBy (text : Text) : Text := (wordsBy spell text).flatMap capitalise

/-- The words of a text in small letters, joined by hyphens. -/
def kebabCaseBy (text : Text) : Text :=
  Text.joinWith ['-'] ((wordsBy spell text).map Text.lower)

end Spelling

/-- The words of a text after transliteration. -/
def words : Text → List Text := wordsBy Text.transliterate

/-- A text in title case after transliteration. -/
def titleCase : Text → Text := titleCaseBy Text.transliterate

/-- A text in small letters with hyphens after transliteration. -/
def kebabCase : Text → Text := kebabCaseBy Text.transliterate

end IconComponents.Name
