/-
**One scan from left to right.**

A recogniser looks at the text ahead and either takes a non-empty start of it or refuses. `scan`
applies it at every place where nothing was taken yet, and gives the text as a list of segments:
characters that were passed over and values that were taken. Reading, replacing and listing are
views of these segments:

* `scan` — the segments; it ends because each hit leaves a shorter text;
* `hits` — the values taken, in order;
* `rewrite` — every hit written anew, every other character kept;
* `find?` — the first hit with the text before and after it.
-/

import IconComponents.Text.Basic

namespace IconComponents

/-- What a recogniser takes from the front of `text`: a value, and the strictly shorter rest. -/
structure Hit (α : Type) (text : Text) where
  value : α
  rest : Text
  shorter : rest.length < text.length

/-- A recogniser for values of type `α` at the front of a text. -/
abbrev Recogniser (α : Type) := (text : Text) → Option (Hit α text)

/-- A part of a scanned text: a character that no hit covers, or a value that the recogniser
took. -/
inductive Segment (α : Type) where
  | plain (c : Char)
  | hit (value : α)
  deriving Repr, DecidableEq

namespace Recogniser

variable {α : Type}

/-- The segments of a text: leftmost hits, none overlapping another. -/
def scan (recognise : Recogniser α) : Text → List (Segment α)
  | [] => []
  | c :: text =>
    match recognise (c :: text) with
    | some hit =>
      have : hit.rest.length ≤ text.length := Nat.le_of_lt_succ hit.shorter
      .hit hit.value :: scan recognise hit.rest
    | none => .plain c :: scan recognise text
termination_by text => text.length

/-- The values taken, from left to right. -/
def hits (recognise : Recogniser α) (text : Text) : List α :=
  (scan recognise text).filterMap fun
    | .plain _ => none
    | .hit value => some value

/-- The text with every hit written by `render` and every other character kept. -/
def rewrite (recognise : Recogniser α) (render : α → Text) (text : Text) : Text :=
  (scan recognise text).flatMap fun
    | .plain c => [c]
    | .hit value => render value

/-- The first hit: the text before it, its value, and the text after it. -/
def find? (recognise : Recogniser α) : Text → Option (Text × α × Text)
  | [] => none
  | c :: text =>
    match recognise (c :: text) with
    | some hit => some ([], hit.value, hit.rest)
    | none => (find? recognise text).map fun (before, found) => (c :: before, found)

end Recogniser

/-- Read the characters up to the next double quote, and that quote. -/
def Text.quotedEnd? (text : Text) : Option (Text × Text) :=
  match text.dropWhile (· != '"') with
  | [] => none
  | _ :: rest => some (text.takeWhile (· != '"'), rest)

theorem Text.eq_of_quotedEnd? {text value rest : Text}
    (found : text.quotedEnd? = some (value, rest)) : text = value ++ '"' :: rest := by
  unfold Text.quotedEnd? at found
  split at found
  · exact absurd found (by simp)
  · next quote tail dropped =>
    obtain ⟨rfl, rfl⟩ := Prod.mk.inj (Option.some.inj found)
    have head : (quote != '"') = false := by
      have := List.head?_dropWhile_not (· != '"') text
      simp only [dropped, List.head?_cons] at this
      simpa using this
    have quoteEq : quote = '"' := by simpa using head
    conv => lhs; rw [← List.takeWhile_append_dropWhile (p := (· != '"')) (l := text), dropped]
    rw [quoteEq]

/-- The rest after a quoted value is shorter than the text that the value starts. -/
theorem Text.length_lt_of_quotedEnd? {text value rest : Text}
    (found : text.quotedEnd? = some (value, rest)) : rest.length < text.length := by
  rw [Text.eq_of_quotedEnd? found]
  simp only [List.length_append, List.length_cons]
  omega

end IconComponents
