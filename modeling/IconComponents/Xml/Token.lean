/-
**The tokens of XML documents.**

Behind its front a document is cut into opening tags with their attributes, closing tags, and what
stands between them. References are found here, but followed later: only the prefixes and the
nesting of tags say what a document means. Reading stops at the first fault, which is the last
token.

* `Token` — a part of a document;
* `tokensFrom` — the tokens from a place on;
* `tokensOf`, `Passage.tokens` — the tokens of a document, and of the text of an entity.
-/

import IconComponents.Xml.DocumentType

namespace IconComponents.Xml

/-- An attribute as it is written, with references in its value, the document from its start on
(`place`), and the document behind its value. -/
structure WrittenAttribute where
  name : QualifiedName
  value : Text
  place : Text
  behind : Text
  deriving Repr, DecidableEq

/-- A part of a document: an opening tag, an attribute of it (`given`), the end of the tag of an
element with something in it (`inside`) or without (`vacant`), a closing tag, what is no element,
the text of an entity in place of a reference with the document behind the reference, or what ends
reading. -/
inductive Token where
  | opening (name : QualifiedName) (place : Text)
  | given (written : WrittenAttribute)
  | inside
  | vacant
  | closing (name : QualifiedName) (place : Text)
  | aside
  | expansion (passage : Passage) (behind : Text)
  | fault (error : Error)
  deriving Repr, DecidableEq

/-! ### Places -/

/-- An error of a text that other text follows. -/
def Error.followedBy (behind : Text) : Error → Error
  | here fault place => .here fault (place ++ behind)
  | error => error

/-- A token of a text that other text follows. -/
def Token.followedBy (more : Text) : Token → Token
  | opening name place => .opening name (place ++ more)
  | given written =>
    .given { written with place := written.place ++ more, behind := written.behind ++ more }
  | closing name place => .closing name (place ++ more)
  | expansion passage behind => .expansion passage (behind ++ more)
  | fault error => .fault (error.followedBy more)
  | token => token

/-! ### Steps -/

/-- Where reading is: in an element, with a number of elements open, in an opening tag, with a
number of elements open around it, or behind the root. -/
inductive Mode where
  | content (depth : Nat)
  | tag (depth : Nat)
  | outside
  deriving Repr, DecidableEq

/-- Where reading is between tags, with a number of elements open. -/
def Mode.between (depth : Nat) : Mode := if depth = 0 then .outside else .content depth

/-- The tokens of references in words, up to the first that is wrong; `behind` is the document
behind the words. -/
def expansions (entities : Entities) (behind : Text) (words : Text) : List Token :=
  match words with
  | [] => []
  | c :: inner =>
    if c != '&' then expansions entities behind inner
    else
      match Reader.reference inner with
      | .error error => [.fault error]
      | .ok found =>
        match found.value with
        | none => [.fault (.here .malformedEntity (c :: inner ++ behind))]
        | some (.character _) => expansions entities behind found.rest
        | some (.entity name) =>
          match entities.lookup name with
          | none => [.fault (.here (.unknownEntity name) (c :: inner ++ behind))]
          | some passage =>
            .expansion passage (found.rest ++ behind) :: expansions entities behind found.rest
termination_by words.length
decreasing_by
  · exact Nat.lt_succ_self _
  · exact Nat.lt_succ_of_le found.length_le
  · exact Nat.lt_succ_of_le found.length_le

namespace Reader

/-- The name of an opening tag behind its bracket; `place` is where it starts. -/
def opening (depth : Nat) (place : Text) : Reader (List Token × Mode) := do
  return ([.opening (← qualifiedName) place], .tag depth)

/-- A closing tag behind its `</`; `place` is where it starts. -/
def closing (depth : Nat) (place : Text) : Reader (List Token × Mode) := do
  let name ← qualifiedName
  skipSpace
  expect '>'
  pure ([.closing name place], .between (depth - 1))

/-- A step in an opening tag whose first character is read. -/
def tagStep (depth : Nat) (c : Char) : Reader (List Token × Mode) := do
  let rest ← ahead
  if c = '>' then pure ([.inside], .content (depth + 1))
  else if c = '/' then
    expect '>'
    pure ([.vacant], .between depth)
  else if !Char.isSpace c then fail (.expectedKind "a whitespace".toList c) (c :: rest)
  else
    skipSpace
    match (← ahead).head? with
    | none => fun _ => .error .endOfText
    | some next =>
      if next = '>' || next = '/' then pure ([], .tag depth)
      else
        let (name, value, place, behind) ← rawAttribute
        pure ([.given ⟨name, value, place, behind⟩], .tag depth)

/-- Words in an element whose first character is read. -/
def words (entities : Entities) (c : Char) : Reader (List Token) := do
  checkWords [c] (← ahead)
  let words := c :: (← wordsWhile (· != '<'))
  let behind ← ahead
  if Text.contains words "]]>".toList then fail .invalidCharacterData behind
  else pure (.aside :: expansions entities behind words)

/-- A step in an element whose first character is read. -/
def contentStep (entities : Entities) (depth : Nat) (c : Char) : Reader (List Token × Mode) := do
  let rest ← ahead
  let place := c :: rest
  if c != '<' then return (← words entities c, .content depth)
  else if ← aside then pure ([.aside], .content depth)
  else if ← skip "![CDATA[".toList then
    let _ ← wordsUpTo "]]>".toList
    pure ([.aside], .content depth)
  else if ← skip ['/'] then closing depth place
  else if rest.isEmpty || rest.head? = some '!' then fail .unknownToken place
  else opening depth place

/-- A step behind the root whose first character is read. -/
def outsideStep (c : Char) : Reader (List Token × Mode) := do
  let place := c :: (← ahead)
  if Char.isSpace c then pure ([], .outside)
  else if c != '<' then fail .unknownToken place
  else if ← aside then pure ([], .outside)
  else fail .unknownToken place

/-- A step whose first character is read. -/
def step (entities : Entities) (c : Char) : Mode → Reader (List Token × Mode)
  | .content depth => contentStep entities depth c
  | .tag depth => tagStep depth c
  | .outside => outsideStep c

end Reader

/-! ### Documents -/

/-- The tokens from a place on. Only a document goes on behind its root. -/
def tokensFrom (isDocument : Bool) (entities : Entities) (mode : Mode) (text : Text) : List Token :=
  match text with
  | [] => []
  | c :: inner =>
    if mode = .outside && !isDocument then []
    else
      match Reader.step entities c mode inner with
      | .error error => [.fault error]
      | .ok found =>
        have := found.length_le
        found.value.1 ++ tokensFrom isDocument entities found.value.2 found.rest
termination_by text.length

/-- The tokens of the text of an entity. -/
def Passage.tokens (entities : Entities) (passage : Passage) : List Token :=
  (tokensFrom false entities (.content 1) passage.words).map (Token.followedBy passage.behind)

/-- The entities that a document declares, and its tokens behind its front. -/
def tokensOf (text : Text) : Entities × List Token :=
  match Reader.front text with
  | .error error => ([], [.fault error])
  | .ok found =>
    match found.rest with
    | '<' :: inner =>
      match Reader.opening 0 found.rest inner with
      | .error error => (found.value, [.fault error])
      | .ok root =>
        (found.value,
          root.value.1 ++ tokensFrom true found.value root.value.2 root.rest)
    | rest => (found.value, tokensFrom true found.value .outside rest)

end IconComponents.Xml
