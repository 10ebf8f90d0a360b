/-
**Quoted text.**

Default values are written as literals of the generated source: a text between double quotes, or a
list of such texts. A quote, a backslash and the control characters are escaped; everything else
stands for itself.

* `escape` — how one character is written inside quotes;
* `quote`, `quoteAll` — the literal of a text and of a list of texts.
-/

import IconComponents.Text.Basic

namespace IconComponents.Text

/-- The escape of a control character without a short one: four hexadecimal digits. -/
def unicodeEscape (code : Nat) : Text :=
  "\\u00".toList ++ [Nat.digitChar (code / 16), Nat.digitChar (code % 16)]

/-- How a character is written inside quotes. -/
def escape (c : Char) : Text :=
  if c = '"' then "\\\"".toList
  else if c = '\\' then "\\\\".toList
  else if c = '\x08' then "\\b".toList
  else if c = '\x0c' then "\\f".toList
  else if c = '\n' then "\\n".toList
  else if c = '\r' then "\\r".toList
  else if c = '\t' then "\\t".toList
  else if c.toNat < 32 then unicodeEscape c.toNat
  else [c]

/-- The literal of a text. -/
def quote (text : Text) : Text := '"' :: text.flatMap escape ++ ['"']

/-- The literal of a list of texts. -/
def quoteAll (texts : List Text) : Text := '[' :: joinWith [','] (texts.map quote) ++ [']']

end IconComponents.Text
