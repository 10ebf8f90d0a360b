/-
**White space.**

`Char.isBlank` is the Unicode property White_Space, a closed list of twenty-five characters;
`Text.trim` takes it off both ends and `Text.isBlank` says that nothing else is there. Between the
words of a document or of a template tag there is less of it: `Char.isSpace`, which
`Text.skipSpace` drops. Template indentation knows the space and the tab only: `Char.isIndent`.
-/

import IconComponents.Text.Basic

namespace IconComponents

/-- The Unicode property White_Space. -/
def Char.isBlank (c : Char) : Bool :=
  c = ' ' || (9 ≤ c.toNat && c.toNat ≤ 13) || c.toNat = 0x85 || c.toNat = 0xA0 ||
  c.toNat = 0x1680 || (0x2000 ≤ c.toNat && c.toNat ≤ 0x200A) || c.toNat = 0x2028 ||
  c.toNat = 0x2029 || c.toNat = 0x202F || c.toNat = 0x205F || c.toNat = 0x3000

/-- The white space between words: space, tab, line feed and carriage return. -/
def Char.isSpace (c : Char) : Bool := c = ' ' || c = '\t' || c = '\n' || c = '\r'

/-- The characters that indent a line. -/
def Char.isIndent (c : Char) : Bool := c = ' ' || c = '\t'

/-- The characters that end a line. -/
def Char.isLineEnd (c : Char) : Bool := c = '\n' || c = '\r'

namespace Text

/-- Drop the longest end of a text whose characters all satisfy `p`. -/
def dropEndWhile (p : Char → Bool) (text : Text) : Text := (text.reverse.dropWhile p).reverse

/-- The text without white space at its start. -/
def trimStart (text : Text) : Text := text.dropWhile Char.isBlank

/-- The text without white space at its end. -/
def trimEnd (text : Text) : Text := dropEndWhile Char.isBlank text

/-- The text without white space at either end. -/
def trim (text : Text) : Text := trimEnd (trimStart text)

/-- The text behind the white space between words. -/
def skipSpace (text : Text) : Text := text.dropWhile Char.isSpace

/-- Behind white space the text is no longer. -/
theorem length_skipSpace_le (text : Text) : (skipSpace text).length ≤ text.length :=
  length_dropWhile_le Char.isSpace text

/-- Whether a text holds white space only. -/
def isBlank (text : Text) : Bool := text.all Char.isBlank

end Text

end IconComponents
