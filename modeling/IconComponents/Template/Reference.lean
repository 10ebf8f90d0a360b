/-
**References to fields.**

A template names a field by a path: names joined by points or slashes, a name in brackets if it has
other characters than letters and digits. In front of the names a path may say where it starts: at
this place, at the root, at a variable of the block, or further out. White space ends a path.

* `Reference` — a path as written, with the names that lead to the field;
* `Reference.name?` — a single name at the front of a text;
* `Reference.read?` — the path at the front of a text, and the text behind it.
-/

import IconComponents.Text.Blank

namespace IconComponents

/-- A reference to a field as written, whether it leads to a variable of a block, which no block
has, and the names that lead to the field. -/
structure Reference where
  written : Text
  isLocal : Bool
  names : List Text
  deriving Repr, DecidableEq

namespace Reference

/-- The characters of a name outside brackets. -/
def isNamePart (c : Char) : Bool :=
  c.isAlphanum || c = '_' || c = '-' || c = '$' || c = ':' || 0x80 ≤ c.toNat

/-- A name without brackets, and the text behind it. -/
def name? (text : Text) : Option (Text × Text) :=
  match text.takeWhile isNamePart with
  | [] => none
  | name => some (name, text.dropWhile isNamePart)

/-- A name with or without brackets, and the text behind it. -/
def item? : Text → Option (Text × Text)
  | '[' :: text =>
    match text.dropWhile (· != ']') with
    | [] => none
    | _ :: rest => some (text.takeWhile (· != ']'), rest)
  | text => name? text

/-- The text behind the sign between two names. -/
def joint? : Text → Option Text
  | '.' :: text => some text
  | '/' :: text => some text
  | _ => none

/-- Behind a name without brackets the text is shorter. -/
theorem length_lt_of_name? {text name rest : Text} (found : name? text = some (name, rest)) :
    rest.length < text.length := by
  have split := congrArg List.length (List.takeWhile_append_dropWhile (p := isNamePart) (l := text))
  rw [List.length_append] at split
  unfold name? at found
  split at found
  · cases found
  · next nonempty =>
    cases found
    have := List.length_pos_iff.mpr nonempty
    omega

/-- Behind a name the text is shorter. -/
theorem length_lt_of_item? {text name rest : Text} (found : item? text = some (name, rest)) :
    rest.length < text.length := by
  unfold item? at found
  split at found
  · next inner =>
    split at found
    · cases found
    · next closed =>
      cases found
      have := Text.length_dropWhile_le (· != ']') inner
      rw [closed, List.length_cons] at this
      simp only [List.length_cons]
      omega
  · exact length_lt_of_name? found

/-- Behind the sign between two names the text is shorter. -/
theorem length_lt_of_joint? {text rest : Text} (found : joint? text = some rest) :
    rest.length < text.length := by
  unfold joint? at found
  split at found
  · cases found
    exact Nat.lt_succ_self _
  · cases found
    exact Nat.lt_succ_self _
  · cases found

/-- Behind the next name of a path the text is shorter. -/
theorem length_lt_of_joined {text name rest : Text}
    (found : (joint? text).bind item? = some (name, rest)) : rest.length < text.length := by
  obtain ⟨inner, joined, read⟩ := Option.bind_eq_some_iff.mp found
  exact Nat.lt_trans (length_lt_of_item? read) (length_lt_of_joint? joined)

/-- The further names of a path, and the text behind them. -/
def items (text : Text) : List Text × Text :=
  match found : (joint? text).bind item? with
  | none => ([], text)
  | some (name, rest) =>
    have : rest.length < text.length := length_lt_of_joined found
    let (names, behind) := items rest
    (name :: names, behind)
termination_by text.length

/-- Behind the further names of a path the text is no longer. -/
theorem length_items_le (text : Text) : (items text).2.length ≤ text.length := by
  fun_induction items text <;> grind

/-! ### Where a path starts -/

/-- The text behind a word and the sign that follows it, or the whole text. -/
def skipStep (word text : Text) : Text := ((Text.after? word text).bind joint?).getD text

/-- The text behind the word for this place. -/
def skipHere : Text → Text
  | '.' :: '/' :: text => text
  | text => skipStep "this".toList text

/-- The text behind the steps further out. -/
def skipOut : Text → Text
  | '.' :: '.' :: '.' :: text => skipOut text
  | '.' :: '.' :: '/' :: text => skipOut text
  | text => text

/-- Behind a word the text is no longer. -/
theorem length_skipStep_le (word text : Text) : (skipStep word text).length ≤ text.length := by
  unfold skipStep
  cases found : (Text.after? word text).bind joint? with
  | none => exact Nat.le_refl _
  | some rest =>
    obtain ⟨inner, after, joined⟩ := Option.bind_eq_some_iff.mp found
    have whole := congrArg List.length (Text.after?_eq_some_iff.mp after)
    have := length_lt_of_joint? joined
    rw [List.length_append] at whole
    simp only [Option.getD_some]
    omega

/-- Behind the word for this place the text is no longer. -/
theorem length_skipHere_le (text : Text) : (skipHere text).length ≤ text.length := by
  unfold skipHere
  split
  · simp only [List.length_cons]
    omega
  · exact length_skipStep_le _ _

/-- Behind the steps further out the text is no longer. -/
theorem length_skipOut_le (text : Text) : (skipOut text).length ≤ text.length := by
  fun_induction skipOut text <;> grind

/-- Where a path starts: whether it asks for a variable of the block, and the text of its
names. -/
def start (text : Text) : Bool × Text :=
  let here := skipHere text
  let rooted := skipStep "@root".toList here
  match rooted with
  | '@' :: inner => (rooted.length == here.length, skipOut inner)
  | inner => (false, skipOut inner)

/-- Where the names of a path start the text is no longer. -/
theorem length_start_le (text : Text) : (start text).2.length ≤ text.length := by
  have here := length_skipHere_le text
  have rooted := length_skipStep_le "@root".toList (skipHere text)
  simp only [start]
  split
  · next inner sign =>
    have out := length_skipOut_le inner
    rw [sign, List.length_cons] at rooted
    dsimp only
    omega
  · have out := length_skipOut_le (skipStep "@root".toList (skipHere text))
    dsimp only
    omega

/-- The path at the front of a text, and the text behind it. `this` among the names leads nowhere
else. -/
def read? (text : Text) : Option (Reference × Text) :=
  let (isLocal, path) := start text
  (item? path).map fun (first, rest) =>
    let (others, behind) := items rest
    let names := (first :: others).filter (· != "this".toList)
    (⟨text.take (text.length - behind.length), isLocal && !names.isEmpty, names⟩, behind)

/-- Behind a path the text is shorter. -/
theorem length_lt_of_read? {text rest : Text} {reference : Reference}
    (found : read? text = some (reference, rest)) : rest.length < text.length := by
  obtain ⟨⟨first, tail⟩, read, same⟩ := Option.map_eq_some_iff.mp found
  cases same
  exact Nat.lt_of_le_of_lt (length_items_le tail)
    (Nat.lt_of_lt_of_le (length_lt_of_item? read) (length_start_le text))

end Reference

end IconComponents
