/-
**Component names.**

The component of an icon is named after its file: the stem of the file name in title case,
between the configured affixes.

* `ofPath`, `ofPathBy` — the component name of an icon file;
* `isIdentifier` — whether a name can be written as an identifier in the generated source.
-/

import IconComponents.Name.Words
import IconComponents.Path

namespace IconComponents.Name

/-- The file name without one final `.svg` in any letter case, if something remains before it. -/
def stem (fileName : Text) : Text :=
  let length := fileName.length - 4
  if 0 < length && Text.sameIgnoringCase (fileName.drop length) ".svg".toList then
    fileName.take length
  else fileName

/-- The component name of an icon file between its two affixes, after its stem was spelled. -/
def ofPathBy (spell : Text → Text) (path leading trailing : Text) : Text :=
  leading ++ titleCaseBy spell (stem ((Path.fileName? path).getD [])) ++ trailing

/-- The component name of an icon file between its two affixes, after transliteration. -/
def ofPath : Text → Text → Text → Text := ofPathBy Text.transliterate

/-- Characters that may start an identifier. -/
def isIdentifierStart (c : Char) : Bool := c.isAlpha || c = '_' || c = '$'

/-- Characters that may follow in an identifier. -/
def isIdentifierPart (c : Char) : Bool := c.isAlphanum || c = '_' || c = '$'

/-- Whether a name is an identifier: a letter, `_` or `$`, then letters, digits, `_` and `$`. -/
def isIdentifier : Text → Bool
  | [] => false
  | c :: rest => isIdentifierStart c && rest.all isIdentifierPart

end IconComponents.Name
