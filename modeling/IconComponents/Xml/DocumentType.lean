/-
**The front of XML documents.**

Before its root a document can have a declaration, a document type, and comments and instructions
around them. Of all this only the entities that the document type declares are kept.

* `Reader.comment`, `Reader.instruction` — comments and instructions, which can stand anywhere;
* `misc` — comments and instructions in a row;
* `subset` — the declarations of a document type;
* `Reader.front` — all that stands before the root.
-/

import IconComponents.Xml.Entity

namespace IconComponents.Xml

namespace Reader

/-! ### Comments and instructions -/

/-- A comment behind its `<!--`; `place` is where it starts. -/
def comment (place : Text) : Reader PUnit := do
  let words ← wordsUpTo "-->".toList
  if Text.contains words "--".toList || words.getLast? = some '-' then fail .invalidComment place
  else pure ⟨⟩

/-- An instruction behind its `<?`; `place` is where it starts. -/
def instruction (place : Text) : Reader PUnit := do
  if Text.startsWith (← ahead) "xml ".toList then fail .unexpectedDeclaration place
  else do
    let _ ← name
    skipSpace
    let _ ← wordsUpTo "?>".toList

/-- A comment or an instruction behind its opening bracket, if there is one; whether there is. -/
def aside : Reader Bool := do
  let place := '<' :: (← ahead)
  if ← skip "!--".toList then
    comment place
    pure true
  else if ← skip ['?'] then
    instruction place
    pure true
  else pure false

/-! ### Declarations -/

/-- An attribute as it is written: its name and value, where it starts, and the document behind its
value. -/
def rawAttribute : Reader (QualifiedName × Text × Text × Text) := do
  let place ← ahead
  let name ← qualifiedName
  skipSpace
  expect '='
  skipSpace
  let mark ← quotationMark
  let value ← wordsWhile fun c => c != mark && c != '<'
  let behind ← ahead
  expect mark
  pure (name, value, place, behind)

/-- The white space behind an attribute of the declaration, which has to be there unless the
declaration ends. -/
def declarationGap : Reader PUnit := do
  let rest ← ahead
  if rest.isEmpty || Text.startsWith rest "?>".toList then pure ⟨⟩ else needSpace

/-- The declaration at the start of a document, behind its `<?xml `. -/
def declaration : Reader PUnit := do
  skipSpace
  if !Text.startsWith (← ahead) "version".toList then expectText "version".toList
  else do
    let _ ← rawAttribute
    declarationGap
    if Text.startsWith (← ahead) "encoding".toList then
      let _ ← rawAttribute
      declarationGap
    if Text.startsWith (← ahead) "standalone".toList then
      let _ ← rawAttribute
    skipSpace
    expectText "?>".toList

/-- Where something is kept that is not in the document, if that is said; whether it is. -/
def externalId : Reader Bool := do
  let isPublic ← skip "PUBLIC".toList
  let isSystem ← if isPublic then pure false else skip "SYSTEM".toList
  if isPublic then
    needSpace
    let _ ← literal
  if isPublic || isSystem then
    needSpace
    let _ ← literal
  pure (isPublic || isSystem)

/-- What an entity stands for: a part of this document, or something that is kept elsewhere. -/
def definition (isGeneral : Bool) : Reader (Option Passage) := do
  match (← ahead).head? with
  | none => fun _ => .error .endOfText
  | some c =>
    if c = '"' || c = '\'' then
      let mark ← quotationMark
      let words ← takeWhile (· != mark)
      let behind ← ahead
      expect mark
      pure (some ⟨words, behind⟩)
    else if c = 'S' || c = 'P' then
      let place ← ahead
      if ← externalId then
        if isGeneral then
          skipSpace
          if ← skip "NDATA".toList then
            needSpace
            let _ ← nameParts
        pure none
      else fail .invalidExternalId place
    else fail (.expectedKind "a quote, SYSTEM or PUBLIC".toList c) (← ahead)

/-- A declaration of an entity behind its `<!ENTITY`. -/
def entity : Reader Entities := do
  needSpace
  let isParameter ← skip ['%']
  if isParameter then needSpace
  let name ← name
  needSpace
  let passage? ← definition (!isParameter)
  skipSpace
  expect '>'
  pure (passage?.toList.map fun passage => (name, passage))

/-- The end of a document type, behind its closing bracket. -/
def typeEnd : Reader PUnit := do
  skipSpace
  let _ ← expectWhere (· = '>') (.expectedKind "'>'".toList)

/-- One of the declarations of a document type, whose first character is read: the entities that it
declares, or none if the document type ends. `start` is where the document type starts. -/
def subsetItem (start : Text) (c : Char) : Reader (Option Entities) := do
  let place := c :: (← ahead)
  if Char.isSpace c then
    skipSpace
    if (← ahead).isEmpty then fail .unknownToken [] else pure (some [])
  else if c = ']' then
    typeEnd
    pure none
  else if c != '<' then fail .unknownToken place
  else if ← aside then pure (some [])
  else if ← skip "!ENTITY".toList then return some (← entity)
  else
    let words ← ahead
    let isSkipped := ["!ELEMENT".toList, "!ATTLIST".toList, "!NOTATION".toList].any
      (Text.startsWith words)
    if !isSkipped then fail .unknownToken place
    else
      let _ ← takeWhile (· != '>')
      if ← skip ['>'] then pure (some []) else fail .unknownToken start

end Reader

/-- The entities that the declarations of a document type declare. -/
def subset (start text : Text) : Except Error (Reading Entities text) :=
  match text with
  | [] => .ok ⟨[], [], List.suffix_refl _⟩
  | c :: inner =>
    match Reader.subsetItem start c inner with
    | .error error => .error error
    | .ok found =>
      have := found.length_le
      match found.value with
      | none => .ok ⟨[], found.rest, found.suffix.trans (List.suffix_cons c inner)⟩
      | some entities =>
        match subset start found.rest with
        | .error error => .error error
        | .ok behind =>
          .ok ⟨entities ++ behind.value, behind.rest,
            behind.suffix.trans (found.suffix.trans (List.suffix_cons c inner))⟩
termination_by text.length

/-- Read comments and instructions in a row, with white space between them. -/
def misc (text : Text) : Except Error (Reading PUnit text) :=
  match text with
  | [] => .ok ⟨⟨⟩, [], List.suffix_refl _⟩
  | c :: inner =>
    if Char.isSpace c then
      match misc inner with
      | .error error => .error error
      | .ok behind => .ok ⟨⟨⟩, behind.rest, behind.suffix.trans (List.suffix_cons c inner)⟩
    else if c = '<' then
      match Reader.aside inner with
      | .error error => .error error
      | .ok found =>
        have := found.length_le
        if found.value then
          match misc found.rest with
          | .error error => .error error
          | .ok behind =>
            .ok ⟨⟨⟩, behind.rest,
              behind.suffix.trans (found.suffix.trans (List.suffix_cons c inner))⟩
        else .ok ⟨⟨⟩, c :: inner, List.suffix_refl _⟩
    else .ok ⟨⟨⟩, c :: inner, List.suffix_refl _⟩
termination_by text.length

namespace Reader

/-- A document type behind its `<!DOCTYPE`; `start` is where it starts. -/
def documentType (start : Text) : Reader Entities := do
  needSpace
  let place ← ahead
  let name ← nameParts
  if !place.isEmpty && !name.head?.any fun c => c = ':' || isNameStart c then
    fail .invalidName place
  else
    skipSpace
    let _ ← externalId
    skipSpace
    let opening ← expectWhere (fun c => c = '[' || c = '>') (.expectedKind "'[' or '>'".toList)
    if opening = '>' then pure [] else subset start

/-- All that stands before the root of a document, and the entities that are declared there. -/
def front : Reader Entities := do
  let _ ← skip ['\ufeff']
  if ← skip "<?xml ".toList then declaration
  misc
  let start ← ahead
  if ← skip "<!DOCTYPE".toList then
    let entities ← documentType start
    misc
    pure entities
  else pure []

end Reader

end IconComponents.Xml
