/-
**Dashed attribute names.**

Component source writes `strokeWidth` where markup writes `stroke-width`. A dashed name is a word
that starts with a letter, followed by one or more words, each after a hyphen or a colon; it counts
where white space stands before it and `=` after it.

* `recognise` — a dashed name at the front of a text, with the white space before it;
* `dashedNames` — the distinct dashed names of a markup, sorted;
* `camelCase` — the joints dropped and the letter after each one capital;
* `camelizeDashed` — the markup with every dashed name in camel case.
-/

import IconComponents.Text.Blank
import IconComponents.Text.Scan

namespace IconComponents

/-- A character that joins the words of a dashed name. -/
def isJoint (c : Char) : Bool := c = '-' || c = ':'

/-- A character of a word. -/
def isWordPart (c : Char) : Bool := c.isAlphanum || c = '_'

/-- Whether a name of words and joints is dashed: it starts with a letter and is made of at least
two words, none of them empty. -/
def isDashed (name : Text) : Bool :=
  let parts := Text.splitWhere isJoint name
  name.head?.any Char.isAlpha && 2 ≤ parts.length && parts.all (!·.isEmpty)

/-- A dashed name found in markup, with the white space character before it. -/
structure DashedName where
  blank : Char
  name : Text
  deriving Repr, DecidableEq

namespace DashedName

/-- Reads one white space character, a dashed name, and the `=` after it. -/
def recognise : Recogniser DashedName
  | [] => none
  | blank :: text =>
    let isPart := fun c => isWordPart c || isJoint c
    match tail : text.dropWhile isPart with
    | '=' :: rest =>
      let name := text.takeWhile isPart
      if Char.isBlank blank && isDashed name then
        some ⟨⟨blank, name⟩, rest, by
          have := Text.length_dropWhile_le isPart text
          rw [tail] at this
          simp only [List.length_cons] at this ⊢
          omega⟩
      else none
    | _ => none

end DashedName

/-- A name without its joints; `capital` says that a joint was just dropped. -/
def camelFrom : Bool → Text → Text
  | _, [] => []
  | capital, c :: name =>
    if isJoint c then camelFrom true name
    else (if capital then c.toUpper else c) :: camelFrom false name

/-- A dashed name in camel case. -/
def camelCase (name : Text) : Text := camelFrom false name

/-- The distinct dashed names of a markup, sorted by code point. -/
def dashedNames (markup : Text) : List Text :=
  Text.sortedDistinct ((Recogniser.hits DashedName.recognise markup).map (·.name))

/-- The markup with every dashed name in camel case. -/
def camelizeDashed (markup : Text) : Text :=
  Recogniser.rewrite DashedName.recognise
    (fun found => found.blank :: camelCase found.name ++ ['=']) markup

end IconComponents
