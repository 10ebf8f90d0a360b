/-
**References in XML.**

A reference stands for a character, by its code or by one of five names, or for an entity that the
document declares. The text of an entity can refer to other entities; how deep and how often is
limited, so every text comes to its end.

* `Reader.reference` — a reference behind its ampersand;
* `decode` — the value of an attribute with its references replaced.
-/

import IconComponents.Text.Digits
import IconComponents.Xml.Reader

namespace IconComponents.Xml

/-- What a reference stands for: a character, or the text of an entity. -/
inductive Reference where
  | character (c : Char)
  | entity (name : Text)
  deriving Repr, DecidableEq

/-- The entities that need no declaration. -/
def namedCharacters : List (Text × Char) :=
  [("quot".toList, '"'), ("amp".toList, '&'), ("apos".toList, '\''), ("lt".toList, '<'),
    ("gt".toList, '>')]

/-- The character with a given code; a code without one means the replacement character. -/
def charOf? (base : Nat) (digits : Text) : Option Char :=
  let code := Text.numberOf base digits
  if digits.isEmpty || 0x100000000 ≤ code then none
  else
    let c := if code.isValidChar then Char.ofNat code else '\ufffd'
    if isDocumentChar c then some c else none

namespace Reader

/-- A character by its code, if there is one. -/
def codedCharacter : Reader (Option Reference) := do
  let hexadecimal ← skip ['x']
  let digits ← takeWhile (if hexadecimal then Char.isHexDigit else Char.isDigit)
  return (charOf? (if hexadecimal then 16 else 10) digits).map .character

/-- An entity by its name, or the character that the name stands for. -/
def namedEntity : Reader (Option Reference) := do
  let name ← nameParts
  if name.head?.any fun c => c = ':' || isNameStart c then
    return some ((namedCharacters.lookup name).elim (.entity name) .character)
  else return none

/-- A reference behind its ampersand, if it is well formed. -/
def reference : Reader (Option Reference) := do
  let found ← if ← skip ['#'] then codedCharacter else namedEntity
  return if ← skip [';'] then found else none

end Reader

/-! ### Entities -/

/-- A part of a document: its words, and the document behind it. -/
structure Passage where
  words : Text
  behind : Text
  deriving Repr, DecidableEq

/-- The entities that a document declares, the first ones first. -/
abbrev Entities := List (Text × Passage)

/-- How deep entities can refer to each other. -/
def deepestReference : Nat := 10

/-- How many references there can be inside one entity. -/
def mostReferences : Nat := 255

/-- How many references there are inside the outermost entity once one more is followed. `levels` is
how much deeper references can go. None is left if there are too many. -/
def countReference? (levels count : Nat) : Option Nat :=
  if levels = deepestReference then some 0
  else if count = mostReferences then none
  else some (count + 1)

/-- How many references count behind an entity, where `levels` is how much deeper references can
go: outside of entities none does. -/
def countBehind (levels count : Nat) : Nat := if levels = deepestReference then 0 else count

/-! ### Values -/

/-- A character of a value: line ends and tabs become spaces. -/
def valueChar (c : Char) : Char := if Char.isSpace c then ' ' else c

/-- The value of an attribute with its references replaced, and how many references were followed
inside the outermost entity. `levels` is how much deeper references can go, `deeper?` reads the text
of an entity, if references can go deeper at all, and `behind` is the document behind the value. -/
def decodeWith (entities : Entities) (levels : Nat)
    (deeper? : Option (Nat → Text → Text → Except Error (Text × Nat))) (count : Nat)
    (behind text : Text) : Except Error (Text × Nat) :=
  match text with
  | [] => .ok ([], count)
  | '&' :: inner =>
    match Reader.reference inner with
    | .error error => .error error
    | .ok found =>
      have := found.length_le
      match found.value with
      | none => .error (.here .malformedEntity ('&' :: inner ++ behind))
      | some (.character c) =>
        if levels < deepestReference && c = '<' then
          .error (.here .unescapedBracket ('&' :: inner ++ behind))
        else
          (decodeWith entities levels deeper? count behind found.rest).map fun (others, count) =>
            ((if levels < deepestReference then valueChar c else c) :: others, count)
      | some (.entity name) =>
        match entities.lookup name, countReference? levels count, deeper? with
        | none, _, _ => .error (.here (.unknownEntity name) ('&' :: inner ++ behind))
        | some passage, some inside, some deeper =>
          match deeper inside passage.behind passage.words with
          | .error error => .error error
          | .ok (words, inside) =>
            (decodeWith entities levels deeper? (countBehind levels inside) behind found.rest).map
              fun (others, count) => (words ++ others, count)
        | some _, _, _ => .error (.here .entityLoop (found.rest ++ behind))
  | '\r' :: '\n' :: rest =>
    (decodeWith entities levels deeper? count behind rest).map fun (others, count) =>
      (' ' :: others, count)
  | c :: rest =>
    (decodeWith entities levels deeper? count behind rest).map fun (others, count) =>
      (valueChar c :: others, count)
termination_by text.length

/-- The value of an attribute whose references can go `levels` deeper. -/
def decode (entities : Entities) : Nat → Nat → Text → Text → Except Error (Text × Nat)
  | 0 => decodeWith entities 0 none
  | levels + 1 => decodeWith entities (levels + 1) (some (decode entities levels))

end IconComponents.Xml
