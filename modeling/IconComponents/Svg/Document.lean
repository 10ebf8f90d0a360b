/-
**Drawing a file.**

A file is drawn by reading it as a document and drawing what the root of the document shows. A file
can be compressed; it is then unpacked first.

* `MinifyError` — why a file cannot be drawn, and how it is said;
* `Picture.ofDocument` — the picture that a document shows;
* `Picture.ofContent` — the picture that a file shows.
-/

import IconComponents.Content
import IconComponents.Gzip.Archive
import IconComponents.Svg.Picture
import IconComponents.Xml.Error
import IconComponents.Xml.Tree

namespace IconComponents

/-- Why a content cannot be drawn: it is not a text, or it starts as a compressed file does and is
none; it is not a well formed document with the right root, the document that was read coming with
the error; something in it stands too deep; its size is empty; or another reason, in words. -/
inductive MinifyError where
  | encoding
  | archive
  | document (source : Text) (error : Xml.Error)
  | depth
  | size
  | other (words : Text)
  deriving Repr, DecidableEq

/-- The error in words. -/
def MinifyError.message : MinifyError → Text
  | encoding => "provided data has not an UTF-8 encoding".toList
  | archive => "provided data has a malformed GZip content".toList
  | document source error => "SVG data parsing failed cause ".toList ++ error.message source
  | depth => "the maximum number of SVG elements has been reached".toList
  | size => "SVG has an invalid size".toList
  | other words => words

namespace Svg.Picture

/-- The picture that the root of a document shows. -/
def ofDocument (source : Text) : Except MinifyError Picture :=
  match Xml.read source with
  | .error error => .error (.document source error)
  | .ok forest =>
    if isTooDeep 0 forest then .error .depth
    else
      match forest with
      | .element name attributes inside _ =>
        if isOurs name && name.name = "svg".toList then
          match ofRoot? attributes inside with
          | some picture => .ok picture
          | none => .error .size
        else .error (.document source .noRoot)
      | _ => .error (.document source .noRoot)

/-- The picture that bytes show that are no text. -/
def ofBinary (bytes : List UInt8) : Except MinifyError Picture :=
  if Gzip.isArchive bytes then
    match Gzip.unpack? bytes with
    | some unpacked =>
      match String.fromUTF8? ⟨unpacked.toArray⟩ with
      | some source => ofDocument source.toList
      | none => .error .encoding
    | none => .error .archive
  else .error .encoding

/-- The picture that a file shows. -/
def ofContent : Content → Except MinifyError Picture
  | .text source => ofDocument source
  | .binary bytes => ofBinary bytes

end Svg.Picture

end IconComponents
