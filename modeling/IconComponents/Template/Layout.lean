/-
**White space around tags.**

A template is text with tags in it. A tag that has its line for itself takes the whole line away:
its indentation and its line end. A tilde drops the white space on its side. A backslash before
`{{` makes it plain text, and of several backslashes one is dropped.

* `Piece.read?` — the tags of a template, each with the text behind it;
* `Margin` — what the tags so far ask of the text that follows;
* `layout` — the parts of a template with their white space settled.
-/

import IconComponents.Template.Tag
import IconComponents.Text.Position

namespace IconComponents

/-- The text up to the next tag with its escapes undone, and the rest from that tag on. -/
def textToTag : Text → Text × Text
  | [] => ([], [])
  | '\\' :: '{' :: '{' :: '{' :: '{' :: text =>
    let (plain, rest) := textToTag text
    ("\x7b\x7b\x7b\x7b".toList ++ plain, rest)
  | '\\' :: '{' :: '{' :: text =>
    let (plain, rest) := textToTag text
    ("\x7b\x7b".toList ++ plain, rest)
  | '{' :: '{' :: text => ([], '{' :: '{' :: text)
  | c :: text =>
    let others := text.takeWhile (· == '\\')
    let behind := text.dropWhile (· == '\\')
    if c = '\\' && !others.isEmpty && Text.startsWith behind "\x7b\x7b".toList then (others, behind)
    else
      let (plain, rest) := textToTag text
      (c :: plain, rest)

/-- From the next tag on the text is no longer. -/
theorem length_textToTag_le (text : Text) : (textToTag text).2.length ≤ text.length := by
  fun_induction textToTag text <;> grind [Text.length_dropWhile_le]

/-- A tag, where it starts, and the text from it to the next one. -/
structure Piece where
  position : Position
  tagText : TagText
  following : Text
  deriving Repr, DecidableEq

/-- The tags of a text that starts with a tag or is empty. -/
def Piece.read? (position : Position) (text : Text) : Option (List Piece) :=
  match text with
  | '{' :: '{' :: inner =>
    match found : TagText.read? inner with
    | none => none
    | some (tagText, behind) =>
      let following := textToTag behind
      have : (textToTag behind).2.length ≤ inner.length :=
        Nat.le_trans (length_textToTag_le behind) (TagText.length_le_of_read? found)
      let next := position.after (text.take (text.length - following.2.length))
      (Piece.read? next following.2).map (⟨position, tagText, following.1⟩ :: ·)
  | [] => some []
  | _ => none
termination_by text.length

/-! ### Lines -/

/-- Whether the text behind a tag leaves the rest of its line empty. -/
def startsWithEmptyLine (text : Text) : Bool :=
  ((text.dropWhile Char.isIndent).head?).any Char.isLineEnd

/-- Whether the text before a tag leaves its line empty so far; `first` says that nothing stands
before the text. -/
def endsWithEmptyLine (first : Bool) (text : Text) : Bool :=
  match (text.reverse.dropWhile Char.isIndent).head? with
  | none => first
  | some c => Char.isLineEnd c

/-- A text without one line end at its start. -/
def dropLineEnd : Text → Text
  | '\r' :: '\n' :: text => text
  | '\n' :: text => text
  | text => text

namespace Tag

/-- Whether a tag that is alone on its line takes the line away. -/
def ownsLine : Tag → Bool
  | field _ => false
  | call _ => false
  | _ => true

/-- Whether it takes the indentation as well. -/
def ownsIndent : Tag → Bool
  | inclusion _ _ => false
  | tag => tag.ownsLine

end Tag

/-- What the tags so far ask of the text that follows: to drop all white space at its start, or the
rest of the line. -/
structure Margin where
  space : Bool
  line : Bool
  deriving Repr, DecidableEq

namespace Margin

/-- The text as the margin leaves it, and the margin that is left. A line that is not dropped yet
stays to be dropped. -/
def apply (margin : Margin) (text : Text) : Text × Margin :=
  if text.isEmpty then ([], margin)
  else if margin.space then
    (Text.trimStart text,
      if text.all Char.isSpace then margin else { margin with line := false })
  else if margin.line then
    (dropLineEnd (text.dropWhile Char.isIndent), { margin with line := false })
  else (text, margin)

/-- The margin behind a tag; `alone` says that it has its line for itself. -/
def past (margin : Margin) (tagText : TagText) (alone : Bool) : Margin where
  space := if tagText.tag = .comment then margin.space else tagText.trimsAfter
  line := if tagText.tag.ownsLine then alone else margin.line

end Margin

/-- A part of a template: text to be written as it is, or a tag. -/
inductive Part where
  | text (text : Text)
  | tag (position : Position) (tag : Tag)
  deriving Repr, DecidableEq

/-- The parts from a text on; `first` says that nothing stands before it. -/
def layout (margin : Margin) (first : Bool) (text : Text) : List Piece → List Part
  | [] => [.text (margin.apply text).1]
  | piece :: pieces =>
    let (start, margin) := margin.apply text
    let tag := piece.tagText.tag
    let alone := tag.ownsLine && endsWithEmptyLine first text && startsWithEmptyLine piece.following
    let kept := if piece.tagText.trimsBefore then Text.trimEnd start else start
    let kept := if alone && tag.ownsIndent then Text.dropEndWhile Char.isIndent kept else kept
    .text kept :: .tag piece.position tag ::
      layout (margin.past piece.tagText alone) false piece.following pieces

/-- The parts of a template. -/
def partsOf? (source : Text) : Option (List Part) :=
  let (first, rest) := textToTag source
  (Piece.read? (Position.before source rest.length) rest).map (layout ⟨false, false⟩ true first)

end IconComponents
