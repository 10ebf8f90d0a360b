/-
**Patterns for file names.**

In a pattern `?` stands for one character, `*` for any number of them, `[…]` for one of a set and
`[!…]` for one outside of it. A component `**` stands for any number of directories.

* `Pattern.parse` — the tokens of a pattern, or what is wrong with it and where;
* `Pattern.accepts` — whether a name is of a pattern.
-/

import IconComponents.Text.Basic

namespace IconComponents

/-- The characters from a first to a last one. -/
structure CharRange where
  first : Char
  last : Char
  deriving Repr, DecidableEq

/-- Whether a character lies in a range. -/
def CharRange.has (range : CharRange) (c : Char) : Bool :=
  range.first.toNat ≤ c.toNat && c.toNat ≤ range.last.toNat

/-- The ranges that the inside of brackets lists. -/
def CharRange.list : Text → List CharRange
  | first :: '-' :: last :: text => ⟨first, last⟩ :: CharRange.list text
  | c :: text => ⟨c, c⟩ :: CharRange.list text
  | [] => []

/-- A part of a pattern: a character that stands for itself, any one or any number of them (`any`,
`sequence`), any number of directories, or a character within a set or outside of it. -/
inductive Token where
  | char (c : Char)
  | any
  | sequence
  | directories
  | within (ranges : List CharRange)
  | outside (ranges : List CharRange)
  deriving Repr, DecidableEq

/-- The parts of a pattern. -/
abbrev Pattern := List Token

namespace Pattern

/-- What is wrong with a pattern, and before which character: brackets that are not closed or empty
(`range`), three stars in a row (`wildcards`), or two stars that are not a component of their own
(`directories`). -/
inductive Flaw where
  | range (position : Nat)
  | wildcards (position : Nat)
  | directories (position : Nat)
  deriving Repr, DecidableEq

/-- The flaw in words. -/
def Flaw.message (flaw : Flaw) : Text :=
  let (position, words) : Nat × String := match flaw with
    | range position => (position, "invalid range pattern")
    | wildcards position => (position, "wildcards are either regular `*` or recursive `**`")
    | directories position =>
      (position, "recursive wildcards must form a single path component")
  "Pattern syntax error near position ".toList ++ Text.ofNat position ++ ": ".toList ++ words.toList

/-- The inside of brackets that have at least one character in them, and the text behind. -/
def bracket? : Text → Option (Text × Text)
  | [] => none
  | c :: text =>
    match text.dropWhile (· != ']') with
    | [] => none
    | _ :: rest => some (c :: text.takeWhile (· != ']'), rest)

/-- The token of brackets, and the text behind them. -/
def set? : Text → Option (Token × Text)
  | '!' :: text =>
    (bracket? text).map fun (inside, rest) => (.outside (CharRange.list inside), rest)
  | text => (bracket? text).map fun (inside, rest) => (.within (CharRange.list inside), rest)

/-- What is left behind brackets is shorter than the text. -/
theorem length_lt_of_bracket? {text inside rest : Text}
    (found : bracket? text = some (inside, rest)) : rest.length < text.length := by
  unfold bracket? at found
  split at found
  · cases found
  · next c text =>
    split at found
    · cases found
    · next behind closed =>
      cases found
      have := Text.length_dropWhile_le (· != ']') text
      rw [closed, List.length_cons] at this
      rw [List.length_cons]
      omega

/-- What is left behind a set is shorter than the text. -/
theorem length_lt_of_set? {text rest : Text} {token : Token}
    (found : set? text = some (token, rest)) : rest.length < text.length := by
  unfold set? at found
  split at found
  · obtain ⟨_, inner, same⟩ := Option.map_eq_some_iff.mp found
    cases same
    exact Nat.lt_succ_of_lt (length_lt_of_bracket? inner)
  · obtain ⟨_, inner, same⟩ := Option.map_eq_some_iff.mp found
    cases same
    exact length_lt_of_bracket? inner

/-- The tokens from a position on; `fresh` says that a component starts there. -/
def parseFrom (position : Nat) (fresh : Bool) (text : Text) : Except Flaw Pattern :=
  match text with
  | [] => .ok []
  | '?' :: text => (parseFrom (position + 1) false text).map (.any :: ·)
  | '*' :: '*' :: '*' :: _ => .error (.wildcards (position + 2))
  | ['*', '*'] => if fresh then .ok [.directories] else .error (.directories (position - 1))
  | '*' :: '*' :: c :: text =>
    if !fresh then .error (.directories (position - 1))
    else if c = '/' then (parseFrom (position + 3) true text).map (.directories :: ·)
    else .error (.directories (position + 2))
  | '*' :: text => (parseFrom (position + 1) false text).map (.sequence :: ·)
  | '[' :: inner =>
    match found : set? inner with
    | none => .error (.range position)
    | some (token, rest) =>
      have : rest.length < inner.length := length_lt_of_set? found
      let next := position + 1 + (inner.length - rest.length)
      (parseFrom next false rest).map (token :: ·)
  | c :: text => (parseFrom (position + 1) (c = '/') text).map (.char c :: ·)
termination_by text.length

/-- The tokens of a pattern. -/
def parse (text : Text) : Except Flaw Pattern := parseFrom 0 true text

/-- Whether a token that stands for one character stands for a given one. -/
def accepts1 : Token → Char → Bool
  | .char c, d => c = d
  | .any, _ => true
  | .within ranges, d => ranges.any (·.has d)
  | .outside ranges, d => !ranges.any (·.has d)
  | .sequence, _ => false
  | .directories, _ => false

/-- The ends of a text, the longest first. -/
def ends : Text → List Text
  | [] => [[]]
  | c :: text => (c :: text) :: ends text

/-- What can be left of a name behind a token. What can be left before it are ends of one name, the
longest first; any number of characters can be taken from the longest just as well as from the
others. -/
def restsBehind (token : Token) (rests : List Text) : List Text :=
  match token, rests with
  | .sequence, longest :: _ => ends longest
  | .directories, longest :: _ => ends longest
  | token, rests =>
    rests.filterMap fun
      | [] => none
      | c :: rest => if accepts1 token c then some rest else none

/-- Whether a name is of a pattern: nothing can be left of it behind the last token. -/
def accepts (pattern : Pattern) (name : Text) : Bool :=
  (pattern.foldl (fun rests token => restsBehind token rests) [name]).any List.isEmpty

/-- The text that a pattern without wildcards stands for. -/
def literal? : Pattern → Option Text
  | [] => some []
  | .char c :: tokens => (literal? tokens).map (c :: ·)
  | _ => none

/-- Whether a component stands for any number of directories. -/
def isDirectories (component : Pattern) : Bool := component.contains .directories

end Pattern

end IconComponents
