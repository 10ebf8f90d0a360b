/-
**Template tags.**

A tag stands between `{{` and `}}`. It writes a field, calls a helper, includes a partial, opens a
block, starts the alternative of a block, closes a block, or says nothing. A tilde on either side
of a tag asks for the white space on that side to be dropped. What a tag writes is never escaped,
so the brackets may be threefold.

* `Tag` — what a tag says;
* `TagText.read?` — the tag after an opening `{{`, and the text behind its closing `}}`.
-/

import IconComponents.Template.Call

namespace IconComponents

/-- What a tag says: nothing, to write a field, to call a helper in place, to include another
template, to open a block, to start its alternative, itself under a condition if a call is given, or
to close it. -/
inductive Tag where
  | comment
  | field (reference : Reference)
  | call (call : Call)
  | inclusion (name : Text) (parameters : Parameters)
  | opening (call : Call)
  | alternative (call? : Option Call)
  | closing (helper : Text)
  deriving Repr, DecidableEq

namespace Tag

/-- Whether all values in a tag are well formed. -/
def isWellFormed : Tag → Bool
  | call written => written.parameters.isWellFormed
  | inclusion _ parameters => parameters.isWellFormed
  | opening written => written.parameters.isWellFormed
  | alternative written? => written?.all fun written => written.parameters.isWellFormed
  | _ => true

/-- The tag of an expression. `if` and `unless` are calls by themselves. -/
def ofExpression : Expression → Tag
  | .call written => call written
  | .path reference =>
    if reference.written = "if".toList || reference.written = "unless".toList then
      call ⟨reference.written, .done⟩
    else field reference

/-- An expression in round brackets, and the text behind it. -/
def bracketed? (text : Text) : Option (Call × Text) :=
  (Text.after? ['('] text).bind fun inner =>
    (Expression.read? (Text.skipSpace inner)).bind fun (expression, rest) =>
      (Text.after? [')'] (Text.skipSpace rest)).map (expression.toCall, ·)

/-- A path or an expression in round brackets, as a tag. -/
def name? (text : Text) : Option (Tag × Text) :=
  ((bracketed? text).map fun (written, rest) => (call written, rest)).or
    ((Reference.read? text).map fun (reference, rest) => (ofExpression (.path reference), rest))

/-- An expression, with or without round brackets, as a tag. -/
def expression? (text : Text) : Option (Tag × Text) :=
  ((bracketed? text).map fun (written, rest) => (call written, rest)).or
    ((Expression.read? text).map fun (expression, rest) => (ofExpression expression, rest))

/-- Behind an expression in round brackets the text is no longer. -/
theorem length_le_of_bracketed? {text rest : Text} {call : Call}
    (found : bracketed? text = some (call, rest)) : rest.length ≤ text.length := by
  obtain ⟨inner, opened, found⟩ := Option.bind_eq_some_iff.mp found
  obtain ⟨⟨_, behind⟩, read, found⟩ := Option.bind_eq_some_iff.mp found
  obtain ⟨_, closed, same⟩ := Option.map_eq_some_iff.mp found
  cases same
  have := Text.length_lt_of_after? (List.cons_ne_nil _ _) opened
  have := Text.length_skipSpace_le inner
  have := Expression.length_le_of_read? read
  have := Text.length_skipSpace_le behind
  have := Text.length_lt_of_after? (List.cons_ne_nil _ _) closed
  omega

/-- Behind a path or an expression in round brackets the text is no longer. -/
theorem length_le_of_name? {text rest : Text} {tag : Tag}
    (found : name? text = some (tag, rest)) : rest.length ≤ text.length := by
  rcases Option.or_eq_some_iff.mp found with inBrackets | ⟨-, path⟩
  · obtain ⟨_, read, same⟩ := Option.map_eq_some_iff.mp inBrackets
    cases same
    exact length_le_of_bracketed? read
  · obtain ⟨_, read, same⟩ := Option.map_eq_some_iff.mp path
    cases same
    exact Nat.le_of_lt (Reference.length_lt_of_read? read)

/-- Behind an expression the text is no longer. -/
theorem length_le_of_expression? {text rest : Text} {tag : Tag}
    (found : expression? text = some (tag, rest)) : rest.length ≤ text.length := by
  rcases Option.or_eq_some_iff.mp found with inBrackets | ⟨-, plain⟩
  · obtain ⟨_, read, same⟩ := Option.map_eq_some_iff.mp inBrackets
    cases same
    exact length_le_of_bracketed? read
  · obtain ⟨_, read, same⟩ := Option.map_eq_some_iff.mp plain
    cases same
    exact Expression.length_le_of_read? read

/-- The characters of a partial's name. -/
def isPartialPart (c : Char) : Bool :=
  c.isAlphanum || c = '_' || c = '-' || c = '/' || c = '.' || 0x80 ≤ c.toNat

/-- A partial with its parameters, and the text behind it. What a helper would write as its name
stands in front of the parameters. -/
def inclusion? (text : Text) : Option (Tag × Text) :=
  match text.takeWhile isPartialPart with
  | [] =>
    match bracketed? text with
    | some (written, rest) =>
      let (parameters, rest) := Parameters.read rest
      some (inclusion [] (.more none (.call written.helper written.parameters) parameters), rest)
    | none =>
      (Reference.read? text).map fun (reference, rest) =>
        let (parameters, rest) := Parameters.read rest
        (inclusion reference.written parameters, rest)
  | name =>
    let (parameters, rest) := Parameters.read (text.dropWhile isPartialPart)
    some (inclusion name parameters, rest)

/-- Behind a partial the text is no longer. -/
theorem length_le_of_inclusion? {text rest : Text} {tag : Tag}
    (found : inclusion? text = some (tag, rest)) : rest.length ≤ text.length := by
  unfold inclusion? at found
  split at found
  · split at found
    · next written behind read =>
      obtain rfl : (Parameters.read behind).2 = rest := congrArg Prod.snd (Option.some.inj found)
      exact Nat.le_trans (Parameters.length_read_le behind) (length_le_of_bracketed? read)
    · obtain ⟨⟨_, behind⟩, read, same⟩ := Option.map_eq_some_iff.mp found
      obtain rfl : (Parameters.read behind).2 = rest := congrArg Prod.snd same
      exact Nat.le_trans (Parameters.length_read_le behind)
        (Nat.le_of_lt (Reference.length_lt_of_read? read))
  · obtain rfl : (Parameters.read (text.dropWhile isPartialPart)).2 = rest :=
      congrArg Prod.snd (Option.some.inj found)
    exact Nat.le_trans (Parameters.length_read_le _) (Text.length_dropWhile_le _ text)

/-! ### What a tag says -/

/-- The text behind the sign of an alternative. -/
def alternativeSign? (text : Text) : Option Text :=
  (Text.after? "else".toList text).or (Text.after? ['^'] text)

/-- The start of an alternative, and the text behind it. -/
def alternative? (text : Text) : Option (Tag × Text) :=
  (alternativeSign? text).map (alternative none, ·)

/-- The start of an alternative under a condition, and the text behind it. The sign needs no white
space behind it. -/
def chained? (text : Text) : Option (Tag × Text) :=
  (alternativeSign? text).bind fun rest =>
    (Call.read? (Text.skipSpace rest)).map fun (written, rest) => (alternative (some written), rest)

/-- What a tag of any other kind says, and the text from there to its end. -/
def content? : Text → Option (Tag × Text)
  | '{' :: text =>
    (expression? (Text.skipSpace text)).bind fun (tag, rest) =>
      (Text.after? ['\x7d'] (Text.skipSpace rest)).map (tag, ·)
  | '&' :: text => name? (Text.skipSpace text)
  | '#' :: text =>
    (Call.read? (Text.skipSpace text)).map fun (written, rest) => (opening written, rest)
  | '/' :: text =>
    (Reference.name? (Text.skipSpace text)).map fun (helper, rest) => (closing helper, rest)
  | '>' :: text => inclusion? (Text.skipSpace text)
  | text => expression? text

/-- Behind the sign of an alternative the text is no longer. -/
theorem length_le_of_alternativeSign? {text rest : Text}
    (found : alternativeSign? text = some rest) : rest.length ≤ text.length := by
  rcases Option.or_eq_some_iff.mp found with word | ⟨-, sign⟩
  · exact Nat.le_of_lt (Text.length_lt_of_after? (by decide) word)
  · exact Nat.le_of_lt (Text.length_lt_of_after? (List.cons_ne_nil _ _) sign)

/-- Behind the start of an alternative the text is no longer. -/
theorem length_le_of_alternative? {text rest : Text} {tag : Tag}
    (found : alternative? text = some (tag, rest)) : rest.length ≤ text.length := by
  obtain ⟨_, sign, same⟩ := Option.map_eq_some_iff.mp found
  cases same
  exact length_le_of_alternativeSign? sign

/-- Behind the start of an alternative under a condition the text is no longer. -/
theorem length_le_of_chained? {text rest : Text} {tag : Tag}
    (found : chained? text = some (tag, rest)) : rest.length ≤ text.length := by
  obtain ⟨inner, sign, found⟩ := Option.bind_eq_some_iff.mp found
  obtain ⟨_, read, same⟩ := Option.map_eq_some_iff.mp found
  cases same
  exact Nat.le_trans (Nat.le_of_lt (Call.length_lt_of_read? read))
    (Nat.le_trans (Text.length_skipSpace_le inner) (length_le_of_alternativeSign? sign))

/-- Behind what a tag says the text is no longer. -/
theorem length_le_of_content? {text rest : Text} {tag : Tag}
    (found : content? text = some (tag, rest)) : rest.length ≤ text.length := by
  unfold content? at found
  split at found
  · next inner =>
    obtain ⟨⟨_, behind⟩, read, found⟩ := Option.bind_eq_some_iff.mp found
    obtain ⟨_, closed, same⟩ := Option.map_eq_some_iff.mp found
    cases same
    have := Text.length_skipSpace_le inner
    have := length_le_of_expression? read
    have := Text.length_skipSpace_le behind
    have := Text.length_lt_of_after? (List.cons_ne_nil _ _) closed
    simp only [List.length_cons]
    omega
  · next inner =>
    exact Nat.le_succ_of_le
      (Nat.le_trans (length_le_of_name? found) (Text.length_skipSpace_le inner))
  · next inner =>
    obtain ⟨_, read, same⟩ := Option.map_eq_some_iff.mp found
    cases same
    exact Nat.le_succ_of_le
      (Nat.le_trans (Nat.le_of_lt (Call.length_lt_of_read? read)) (Text.length_skipSpace_le inner))
  · next inner =>
    obtain ⟨_, read, same⟩ := Option.map_eq_some_iff.mp found
    cases same
    exact Nat.le_succ_of_le
      (Nat.le_trans (Nat.le_of_lt (Reference.length_lt_of_name? read))
        (Text.length_skipSpace_le inner))
  · next inner =>
    exact Nat.le_succ_of_le
      (Nat.le_trans (length_le_of_inclusion? found) (Text.length_skipSpace_le inner))
  · exact length_le_of_expression? found

end Tag

/-! ### Tags with their tildes -/

/-- A tag, and whether a tilde stands at its start and at its end. -/
structure TagText where
  tag : Tag
  trimsBefore : Bool
  trimsAfter : Bool
  deriving Repr, DecidableEq

namespace TagText

/-- A tilde, if there is one, and the text behind it. -/
def tilde (text : Text) : Bool × Text :=
  match Text.skipSpace text with
  | '~' :: rest => (true, Text.skipSpace rest)
  | rest => (false, rest)

/-- Behind a tilde the text is no longer. -/
theorem length_tilde_le (text : Text) : (tilde text).2.length ≤ text.length := by
  have before := Text.length_skipSpace_le text
  unfold tilde
  split
  · next rest opened =>
    have after := Text.length_skipSpace_le rest
    rw [opened, List.length_cons] at before
    dsimp only
    omega
  · exact before

/-- A tag that ends with given brackets after what it says, and the text behind it. -/
def closed? (brackets : Text) (trimsBefore : Bool) (content : Option (Tag × Text)) :
    Option (TagText × Text) :=
  content.bind fun (tag, rest) =>
    let (trimsAfter, rest) := tilde rest
    (Text.after? brackets rest).map (⟨tag, trimsBefore, trimsAfter⟩, ·)

/-- Behind a closed tag the text is no longer than what follows its content. -/
theorem length_le_of_closed? {brackets text rest : Text} {trimsBefore : Bool}
    {content : Option (Tag × Text)} {tagText : TagText}
    (bound : ∀ {tag : Tag} {inner : Text}, content = some (tag, inner) →
      inner.length ≤ text.length)
    (found : closed? brackets trimsBefore content = some (tagText, rest)) :
    rest.length ≤ text.length := by
  obtain ⟨⟨_, inner⟩, said, found⟩ := Option.bind_eq_some_iff.mp found
  obtain ⟨_, ended, same⟩ := Option.map_eq_some_iff.mp found
  cases same
  have whole : (tilde inner).2.length = _ :=
    congrArg List.length (Text.after?_eq_some_iff.mp ended)
  have := length_tilde_le inner
  have := bound said
  rw [List.length_append] at whole
  omega

/-- A tag in threefold brackets, behind the first two of them. -/
def threefold? : Text → Option (TagText × Text)
  | '{' :: text =>
    let (trimsBefore, inner) := tilde text
    closed? "\x7d\x7d\x7d".toList trimsBefore (Tag.expression? inner)
  | _ => none

/-- A tag in twofold brackets, behind the opening ones. -/
def twofold? (text : Text) : Option (TagText × Text) :=
  let (trimsBefore, inner) := tilde text
  let closed? := closed? "\x7d\x7d".toList trimsBefore
  (closed? (Tag.alternative? inner)).or
    ((closed? (Tag.chained? inner)).or (closed? (Tag.content? inner)))

/-- Behind a tag in threefold brackets the text is no longer. -/
theorem length_le_of_threefold? {text rest : Text} {tagText : TagText}
    (found : threefold? text = some (tagText, rest)) : rest.length ≤ text.length := by
  unfold threefold? at found
  split at found
  · next inner =>
    exact Nat.le_succ_of_le
      (Nat.le_trans (length_le_of_closed? Tag.length_le_of_expression? found)
        (length_tilde_le inner))
  · cases found

/-- Behind a tag in twofold brackets the text is no longer. -/
theorem length_le_of_twofold? {text rest : Text} {tagText : TagText}
    (found : twofold? text = some (tagText, rest)) : rest.length ≤ text.length := by
  refine Nat.le_trans ?_ (length_tilde_le text)
  rcases Option.or_eq_some_iff.mp found with alternative | ⟨-, found⟩
  · exact length_le_of_closed? Tag.length_le_of_alternative? alternative
  · rcases Option.or_eq_some_iff.mp found with chained | ⟨-, content⟩
    · exact length_le_of_closed? Tag.length_le_of_chained? chained
    · exact length_le_of_closed? Tag.length_le_of_content? content

/-- The text behind a comment. One that starts with two dashes ends with two dashes, if any
follow. -/
def comment? (text : Text) : Option Text :=
  let long := (Text.after? "--".toList (Text.skipSpace text)).bind
    (Text.cut? "--\x7d\x7d".toList)
  (long.or (Text.cut? "\x7d\x7d".toList text)).map (·.2)

/-- Behind a comment the text is no longer. -/
theorem length_le_of_comment? {text rest : Text} (found : comment? text = some rest) :
    rest.length ≤ text.length := by
  obtain ⟨⟨inside, tail⟩, cut, same⟩ := Option.map_eq_some_iff.mp found
  obtain rfl : tail = rest := same
  rcases Option.or_eq_some_iff.mp cut with long | ⟨_, short⟩
  · obtain ⟨behind, opened, closed⟩ := Option.bind_eq_some_iff.mp long
    have space := Text.length_skipSpace_le text
    have whole := congrArg List.length (Text.after?_eq_some_iff.mp opened)
    have inner := congrArg List.length (Text.eq_append_of_cut? closed)
    simp only [List.length_append] at whole inner
    omega
  · have whole := congrArg List.length (Text.eq_append_of_cut? short)
    simp only [List.length_append] at whole
    omega

/-- The tag after an opening `{{`, and the text behind its closing `}}`. -/
def read? : Text → Option (TagText × Text)
  | '!' :: text => (comment? text).map (⟨.comment, false, false⟩, ·)
  | text =>
    ((threefold? text).or (twofold? text)).filter fun (tagText, _) => tagText.tag.isWellFormed

/-- Behind a tag the text is no longer. -/
theorem length_le_of_read? {text rest : Text} {tagText : TagText}
    (found : read? text = some (tagText, rest)) : rest.length ≤ text.length := by
  unfold read? at found
  split at found
  · obtain ⟨_, read, same⟩ := Option.map_eq_some_iff.mp found
    cases same
    exact Nat.le_succ_of_le (length_le_of_comment? read)
  · rcases Option.or_eq_some_iff.mp (Option.filter_eq_some_iff.mp found).1 with three | ⟨-, two⟩
    · exact length_le_of_threefold? three
    · exact length_le_of_twofold? two

end TagText

end IconComponents
