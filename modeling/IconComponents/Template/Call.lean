/-
**Calls of helpers.**

A call names a helper and gives it parameters: values, fields and inner calls in round brackets,
some of them by name. White space may stand between all of these.

* `Argument`, `Parameters`, `Call` — what a call says;
* `Expression` — a call, or a path by itself;
* `Expression.read?` — the expression at the front of a text, and the text behind it;
* `Call.read?` — a helper and its parameters, as blocks have them.
-/

import IconComponents.Template.Literal

namespace IconComponents

mutual

/-- What is given to a helper: a value in place, a field, or what another helper writes. -/
inductive Argument where
  | literal (literal : Literal)
  | field (reference : Reference)
  | call (helper : Text) (parameters : Parameters)
  deriving Repr, DecidableEq

/-- The parameters of a call, each given by name or in its place. -/
inductive Parameters where
  | done
  | more (name : Option Text) (argument : Argument) (others : Parameters)
  deriving Repr, DecidableEq

end

mutual

/-- Whether all values in an argument are well formed. -/
def Argument.isWellFormed : Argument → Bool
  | .literal literal => literal.isWellFormed
  | .field _ => true
  | .call _ parameters => parameters.isWellFormed

/-- Whether all values in a list of parameters are well formed. -/
def Parameters.isWellFormed : Parameters → Bool
  | .done => true
  | .more _ argument others => argument.isWellFormed && others.isWellFormed

end

/-- A helper with its parameters. -/
structure Call where
  helper : Text
  parameters : Parameters
  deriving Repr, DecidableEq

/-- An expression: a helper with at least one parameter, or a path by itself. -/
inductive Expression where
  | call (written : Call)
  | path (reference : Reference)
  deriving Repr, DecidableEq

/-- The call that an expression in brackets is: a path by itself names the helper. -/
def Expression.toCall : Expression → Call
  | call written => written
  | path reference => ⟨reference.written, .done⟩

/-! ### Reading -/

/-- Whether a word stands here that is no parameter: `else`, or the `as` that introduces names. -/
def Argument.startsWithKeyword (text : Text) : Bool :=
  ((Text.after? "as".toList text).or (Text.after? "else".toList text)).any fun rest =>
    !(Text.skipSpace rest).head?.any Reference.isNamePart

/-- A name with an equals sign, and the text behind them. -/
def Parameters.label? (text : Text) : Option (Text × Text) :=
  (Reference.name? text).bind fun (name, rest) =>
    (Text.after? ['='] (Text.skipSpace rest)).map fun rest => (name, Text.skipSpace rest)

/-- Behind a name with an equals sign the text is no longer. -/
theorem Parameters.length_le_of_label? {text name rest : Text}
    (found : label? text = some (name, rest)) : rest.length ≤ text.length := by
  obtain ⟨⟨_, behind⟩, read, found⟩ := Option.bind_eq_some_iff.mp found
  obtain ⟨inner, sign, same⟩ := Option.map_eq_some_iff.mp found
  cases same
  have := Reference.length_lt_of_name? read
  have := Text.length_skipSpace_le behind
  have := Text.length_lt_of_after? (List.cons_ne_nil _ _) sign
  have := Text.length_skipSpace_le inner
  omega

mutual

/-- An argument at the front of a text, and the text behind it; `depth` bounds how many can lie in
it. -/
def Argument.readWithin? (depth : Nat) (text : Text) : Option (Argument × Text) :=
  match depth with
  | 0 => none
  | depth + 1 =>
    if Argument.startsWithKeyword text then none
    else
      match Literal.read? text with
      | some (literal, rest) => some (.literal literal, rest)
      | none =>
        match text with
        | '(' :: text =>
          match Expression.readWithin? depth (Text.skipSpace text) with
          | none => none
          | some (expression, rest) =>
            let call := expression.toCall
            (Text.after? [')'] (Text.skipSpace rest)).map (.call call.helper call.parameters, ·)
        | text => (Reference.read? text).map fun (reference, rest) => (.field reference, rest)

/-- A parameter at the front of a text, given by name or in its place. -/
def Parameters.readOne? (depth : Nat) (text : Text) : Option ((Option Text × Argument) × Text) :=
  match depth with
  | 0 => none
  | depth + 1 =>
    let labelled := (Parameters.label? text).bind fun (name, inner) =>
      (Argument.readWithin? depth inner).map fun (argument, rest) => ((some name, argument), rest)
    labelled.or ((Argument.readWithin? depth text).map fun (argument, rest) =>
      ((none, argument), rest))

/-- The parameters at the front of a text, and the text behind them. -/
def Parameters.readWithin (depth : Nat) (text : Text) : Parameters × Text :=
  match depth with
  | 0 => (.done, text)
  | depth + 1 =>
    match Parameters.readOne? depth (Text.skipSpace text) with
    | none => (.done, text)
    | some ((name, argument), rest) =>
      let (others, behind) := Parameters.readWithin depth rest
      (.more name argument others, behind)

/-- An expression at the front of a text, and the text behind it. -/
def Expression.readWithin? (depth : Nat) (text : Text) : Option (Expression × Text) :=
  match depth with
  | 0 => none
  | depth + 1 =>
    let call := (Reference.name? text).bind fun (helper, rest) =>
      match Parameters.readWithin depth rest with
      | (.done, _) => none
      | (parameters, rest) => some (Expression.call ⟨helper, parameters⟩, rest)
    call.or ((Reference.read? text).map fun (reference, rest) => (.path reference, rest))

end

/-- What is left behind an argument, a parameter, parameters or an expression is no longer than the
text. -/
theorem Expression.length_le_of_readWithin? (depth : Nat) :
    (∀ {text rest : Text} {argument : Argument},
      Argument.readWithin? depth text = some (argument, rest) → rest.length ≤ text.length) ∧
    (∀ {text rest : Text} {parameter : Option Text × Argument},
      Parameters.readOne? depth text = some (parameter, rest) → rest.length ≤ text.length) ∧
    (∀ text : Text, (Parameters.readWithin depth text).2.length ≤ text.length) ∧
    (∀ {text rest : Text} {expression : Expression},
      Expression.readWithin? depth text = some (expression, rest) → rest.length ≤ text.length) := by
  induction depth with
  | zero =>
    refine ⟨?_, ?_, ?_, ?_⟩
    · intro text rest argument found
      rw [Argument.readWithin?] at found
      cases found
    · intro text rest parameter found
      rw [Parameters.readOne?] at found
      cases found
    · intro text
      simp only [Parameters.readWithin, Nat.le_refl]
    · intro text rest expression found
      rw [Expression.readWithin?] at found
      cases found
  | succ depth ih =>
    obtain ⟨ofArgument, ofParameter, ofParameters, ofExpression⟩ := ih
    refine ⟨?_, ?_, ?_, ?_⟩
    · intro text rest argument found
      unfold Argument.readWithin? at found
      split at found
      · cases found
      · split at found
        · next literal =>
          cases found
          exact Literal.length_le_of_read? literal
        · split at found
          · next inner _ _ =>
            split at found
            · cases found
            · next expression behind read =>
              obtain ⟨_, closed, same⟩ := Option.map_eq_some_iff.mp found
              cases same
              have := ofExpression read
              have := Text.length_skipSpace_le inner
              have := Text.length_skipSpace_le behind
              have := Text.length_lt_of_after? (List.cons_ne_nil _ _) closed
              simp only [List.length_cons]
              omega
          · obtain ⟨_, read, same⟩ := Option.map_eq_some_iff.mp found
            cases same
            exact Nat.le_of_lt (Reference.length_lt_of_read? read)
    · intro text rest parameter found
      rw [Parameters.readOne?] at found
      rcases Option.or_eq_some_iff.mp found with labelled | ⟨-, placed⟩
      · obtain ⟨⟨_, inner⟩, label, read⟩ := Option.bind_eq_some_iff.mp labelled
        obtain ⟨_, argument, same⟩ := Option.map_eq_some_iff.mp read
        cases same
        exact Nat.le_trans (ofArgument argument) (Parameters.length_le_of_label? label)
      · obtain ⟨_, argument, same⟩ := Option.map_eq_some_iff.mp placed
        cases same
        exact ofArgument argument
    · intro text
      rw [Parameters.readWithin]
      split
      · exact Nat.le_refl _
      · next name argument behind read =>
        exact Nat.le_trans (ofParameters behind)
          (Nat.le_trans (ofParameter read) (Text.length_skipSpace_le text))
    · intro text rest expression found
      rw [Expression.readWithin?] at found
      rcases Option.or_eq_some_iff.mp found with call | ⟨-, path⟩
      · obtain ⟨⟨_, behind⟩, name, given⟩ := Option.bind_eq_some_iff.mp call
        have := Reference.length_lt_of_name? name
        have := ofParameters behind
        dsimp only at given
        split at given
        · cases given
        · next read =>
          cases given
          rw [read] at this
          dsimp only at this
          omega
      · obtain ⟨_, read, same⟩ := Option.map_eq_some_iff.mp path
        cases same
        exact Nat.le_of_lt (Reference.length_lt_of_read? read)

/-- How many calls lie in a text at most, with the steps that reading each of them takes. -/
def Expression.depthOf (text : Text) : Nat := 4 * text.length + 4

/-- The expression at the front of a text, and the text behind it. -/
def Expression.read? (text : Text) : Option (Expression × Text) :=
  readWithin? (depthOf text) text

/-- Behind an expression the text is no longer. -/
theorem Expression.length_le_of_read? {text rest : Text} {expression : Expression}
    (found : read? text = some (expression, rest)) : rest.length ≤ text.length :=
  (length_le_of_readWithin? _).2.2.2 found

/-- The parameters at the front of a text, and the text behind them. -/
def Parameters.read (text : Text) : Parameters × Text :=
  readWithin (Expression.depthOf text) text

/-- Behind parameters the text is no longer. -/
theorem Parameters.length_read_le (text : Text) : (read text).2.length ≤ text.length :=
  (Expression.length_le_of_readWithin? _).2.2.1 text

/-- The text behind one name or two between bars and the word that introduces them. -/
def Call.namesEnd? (text : Text) : Option Text :=
  (Text.after? "as".toList text).bind fun rest =>
    (Text.after? ['|'] (Text.skipSpace rest)).bind fun rest =>
      (Reference.name? (Text.skipSpace rest)).bind fun (_, rest) =>
        let second := Reference.name? (Text.skipSpace rest)
        Text.after? ['|'] (Text.skipSpace ((second.map (·.2)).getD rest))

/-- Behind names between bars the text is no longer. -/
theorem Call.length_le_of_namesEnd? {text rest : Text} (found : namesEnd? text = some rest) :
    rest.length ≤ text.length := by
  obtain ⟨behindWord, word, found⟩ := Option.bind_eq_some_iff.mp found
  obtain ⟨behindBar, bar, found⟩ := Option.bind_eq_some_iff.mp found
  obtain ⟨⟨_, behindName⟩, name, found⟩ := Option.bind_eq_some_iff.mp found
  have := Text.length_lt_of_after? (by decide) word
  have := Text.length_skipSpace_le behindWord
  have := Text.length_lt_of_after? (List.cons_ne_nil _ _) bar
  have := Text.length_skipSpace_le behindBar
  have := Reference.length_lt_of_name? name
  have := Text.length_skipSpace_le behindName
  have closed := Text.length_lt_of_after? (List.cons_ne_nil _ _) found
  cases second : Reference.name? (Text.skipSpace behindName) with
  | none =>
    simp only [second, Option.map_none, Option.getD_none] at closed
    omega
  | some pair =>
    have := Reference.length_lt_of_name? second
    have := Text.length_skipSpace_le pair.2
    simp only [second, Option.map_some, Option.getD_some] at closed
    omega

/-- The text without names between bars at its start. -/
def Call.skipNames (text : Text) : Text := (namesEnd? (Text.skipSpace text)).getD text

/-- Without names between bars the text is no longer. -/
theorem Call.length_skipNames_le (text : Text) : (skipNames text).length ≤ text.length := by
  have space := Text.length_skipSpace_le text
  unfold skipNames
  cases named : namesEnd? (Text.skipSpace text) with
  | none => exact Nat.le_refl _
  | some rest => exact Nat.le_trans (length_le_of_namesEnd? named) space

/-- A helper with its parameters and the names that it gives to values, if any, and the text
behind. -/
def Call.read? (text : Text) : Option (Call × Text) :=
  (Reference.name? text).map fun (helper, rest) =>
    let (parameters, rest) := Parameters.read rest
    (⟨helper, parameters⟩, skipNames rest)

/-- Behind a helper and its parameters the text is shorter. -/
theorem Call.length_lt_of_read? {text rest : Text} {call : Call}
    (found : read? text = some (call, rest)) : rest.length < text.length := by
  obtain ⟨⟨helper, behind⟩, name, same⟩ := Option.map_eq_some_iff.mp found
  obtain rfl : skipNames (Parameters.read behind).2 = rest := congrArg Prod.snd same
  exact Nat.lt_of_le_of_lt (length_skipNames_le _)
    (Nat.lt_of_le_of_lt (Parameters.length_read_le behind) (Reference.length_lt_of_name? name))

end IconComponents
