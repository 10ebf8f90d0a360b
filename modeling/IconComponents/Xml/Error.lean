/-
**Malformed XML.**

What makes a document malformed, and how it is said. Most faults have a place; it is kept as the
rest of the document from there on.

* `Fault` — what is wrong at a place; `Error` — why a text is no document;
* `Error.message` — the error in words.
-/

import IconComponents.Text.Position
import IconComponents.Text.Printable

namespace IconComponents.Xml

/-- What is wrong at a place of a document: something unknown, a closing tag that does not close the
innermost element or stands first in an entity, a malformed name, a character that no document can
hold, something else than was expected, an attribute or a prefix given twice, a namespace that is
not declared or reserved, an entity that is not declared, malformed, or refers to itself without end
or too often, an opening bracket written by its code in an entity that an attribute refers to, two
hyphens in a comment, the end of a literal section in plain text, a declaration elsewhere than at
the start, or an external identifier that does not say where something is kept. -/
inductive Fault where
  | unknownToken
  | wrongClose (expected actual : Text)
  | closeInEntity
  | invalidName
  | wrongCharacter (c : Char)
  | expectedChar (expected actual : Char)
  | expectedKind (expected : Text) (actual : Char)
  | expectedText (expected : Text)
  | duplicateAttribute (name : Text)
  | unknownNamespace (name : Text)
  | duplicateNamespace (name : Text)
  | declarationPrefix
  | wrongXmlNamespace
  | reservedXmlNamespace
  | reservedDeclarationNamespace
  | unknownEntity (name : Text)
  | malformedEntity
  | entityLoop
  | unescapedBracket
  | invalidComment
  | invalidCharacterData
  | unexpectedDeclaration
  | invalidExternalId
  deriving Repr, DecidableEq

/-- Why a text is no document: there is no root element, or it is not closed, the text ends inside a
tag, or something is wrong at a place. -/
inductive Error where
  | noRoot
  | unclosedRoot
  | endOfText
  | here (fault : Fault) (place : Text)
  deriving Repr, DecidableEq

/-! ### Messages -/

/-- A text in single quotes. -/
def quoted (words : Text) : Text := '\'' :: words ++ ['\'']

/-- The character whose code is the first byte of a character. -/
def firstByte (c : Char) : Char :=
  let code := c.toNat
  Char.ofNat <|
    if code < 0x80 then code
    else if code < 0x800 then 0xC0 + code / 0x40
    else if code < 0x10000 then 0xE0 + code / 0x1000
    else 0xF0 + code / 0x40000

/-- A fault in words; `place` is its place in words. -/
def Fault.message (place : Text) : Fault → Text
  | unknownToken => "unknown token at ".toList ++ place
  | wrongClose expected actual =>
    "expected ".toList ++ quoted expected ++ " tag, not ".toList ++ quoted actual ++
      " at ".toList ++ place
  | closeInEntity => "unexpected close tag at ".toList ++ place
  | invalidName => "invalid name token at ".toList ++ place
  | wrongCharacter c =>
    "a non-XML character ".toList ++ quoted (Char.display c) ++ " found at ".toList ++ place
  | expectedChar expected actual =>
    "expected ".toList ++ quoted [expected] ++ " not ".toList ++ quoted [firstByte actual] ++
      " at ".toList ++ place
  | expectedKind expected actual =>
    "expected ".toList ++ expected ++ " not ".toList ++ quoted [firstByte actual] ++
      " at ".toList ++ place
  | expectedText expected => "expected ".toList ++ quoted expected ++ " at ".toList ++ place
  | duplicateAttribute name =>
    "attribute ".toList ++ quoted name ++ " at ".toList ++ place ++ " is already defined".toList
  | unknownNamespace name =>
    "an unknown namespace prefix ".toList ++ quoted name ++ " at ".toList ++ place
  | duplicateNamespace name =>
    "namespace ".toList ++ quoted name ++ " at ".toList ++ place ++ " is already defined".toList
  | declarationPrefix =>
    "the 'xmlns' prefix is used at ".toList ++ place ++ ", but it must not be".toList
  | wrongXmlNamespace => "'xml' namespace prefix mapped to wrong URI at ".toList ++ place
  | reservedXmlNamespace =>
    "the 'xml' namespace URI is used for not 'xml' prefix at ".toList ++ place
  | reservedDeclarationNamespace =>
    "the 'xmlns' URI is used at ".toList ++ place ++ ", but it must not be declared".toList
  | unknownEntity name =>
    "unknown entity reference ".toList ++ quoted name ++ " at ".toList ++ place
  | malformedEntity => "malformed entity reference at ".toList ++ place
  | entityLoop => "a possible entity reference loop is detected at ".toList ++ place
  | unescapedBracket => "unescaped '<' found at ".toList ++ place
  | invalidComment => "comment at ".toList ++ place ++ " contains '--'".toList
  | invalidCharacterData =>
    "']]>' at ".toList ++ place ++ " is not allowed inside a character data".toList
  | unexpectedDeclaration => "unexpected XML declaration at ".toList ++ place
  | invalidExternalId => "invalid ExternalID at ".toList ++ place

/-- The place in a document from which a given rest starts, in words. -/
def placeText (source place : Text) : Text :=
  let position := Position.before source place.length
  Text.ofNat position.line ++ [':'] ++ Text.ofNat position.column

/-- The error in words, for the document it was found in. -/
def Error.message (source : Text) : Error → Text
  | noRoot => "the document does not have a root node".toList
  | unclosedRoot => "the root node was opened but never closed".toList
  | endOfText => "unexpected end of stream".toList
  | here fault place => fault.message (placeText source place)

end IconComponents.Xml
