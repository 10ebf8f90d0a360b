/-
**File contents.**

A file holds bytes. Most of what the library reads is text; bytes that no text is encoded by are
kept as they are.
-/

import IconComponents.Text.Basic

namespace IconComponents

/-- What a file holds: a text, encoded in UTF-8, or bytes that are none. -/
inductive Content where
  | text (words : Text)
  | binary (bytes : List UInt8)
  deriving Repr, DecidableEq

namespace Content

/-- The content that is encoded by bytes. -/
def ofBytes (bytes : ByteArray) : Content :=
  match String.fromUTF8? bytes with
  | some string => .text string.toList
  | none => .binary bytes.toList

/-- The bytes of a content. -/
def toBytes : Content → ByteArray
  | text words => (String.ofList words).toUTF8
  | binary bytes => ⟨bytes.toArray⟩

/-- The text that a content is, if it is one. -/
def text? : Content → Option Text
  | text words => some words
  | binary _ => none

end Content

end IconComponents
