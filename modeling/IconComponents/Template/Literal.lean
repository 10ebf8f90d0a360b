/-
**Values written in a template.**

A parameter can be a value in place: a text in quotes, a list, a record, a number, or one of three
words. It is written as in JSON, with two liberties: a text that is a parameter by itself may have
single quotes, and shapes that JSON does not know, such as a number that starts with a needless
zero, are values that make the template malformed.

* `Condition` — what a condition can tell of a value, and `Condition.holds`;
* `Literal.read?` — the value at the front of a text, and the text behind it.
-/

import IconComponents.Number.Binary
import IconComponents.Template.Reference
import IconComponents.Text.Digits

namespace IconComponents

/-- A value, as far as a condition can tell it from others: nothing, a yes or no, a number, or a
text, list or record, of which only counts whether it is empty. -/
inductive Condition where
  | null
  | flag (value : Bool)
  | number (value : Double)
  | collection (isEmpty : Bool)
  deriving Repr, DecidableEq

/-- Whether a condition on a value holds: nothing, no and what is empty are false, and so is zero
unless `zeroCounts`. A number that is too small for all its digits counts as zero. -/
def Condition.holds (zeroCounts : Bool) : Condition → Bool
  | null => false
  | flag value => value
  | number value => zeroCounts || value.isNormal
  | collection isEmpty => !isEmpty

/-- A value as it is written, whether it is JSON, and how many lists and records lie within each
other. -/
structure Literal where
  value : Condition
  isJson : Bool
  depth : Nat
  deriving Repr, DecidableEq

namespace Literal

/-- A value without lists and records in it. -/
def flat (value : Condition) (isJson : Bool) : Literal := ⟨value, isJson, 0⟩

/-- Lists and records within each other are limited in number. -/
def depthLimit : Nat := 127

/-- Whether a template may hold the value. -/
def isWellFormed (literal : Literal) : Bool := literal.isJson && literal.depth ≤ depthLimit

/-! ### Texts -/

/-- The units of a text up to its closing quote, and the text behind it. A backslash stands before
a quote, a backslash, a slash, a letter for a control character, or the four digits of a unit. -/
def units? (quote : Char) : Text → Option (List Nat × Text)
  | [] => none
  | '\\' :: 'u' :: a :: b :: c :: d :: text =>
    if [a, b, c, d].all Char.isHexDigit then
      (units? quote text).map fun (units, rest) => (Text.numberOf 16 [a, b, c, d] :: units, rest)
    else none
  | '\\' :: c :: text =>
    if c = quote || "\\/bfnrt".toList.contains c then
      (units? quote text).map fun (units, rest) => (c.toNat :: units, rest)
    else none
  | c :: text =>
    if c = quote then some ([], text)
    else if c = '\\' then none
    else (units? quote text).map fun (units, rest) => (c.toNat :: units, rest)

/-- Behind a quoted text the text is no longer. -/
theorem length_le_of_units? {quote : Char} {text rest : Text} {units : List Nat}
    (found : units? quote text = some (units, rest)) : rest.length ≤ text.length := by
  fun_induction units? quote text generalizing units with
  | case1 => cases found
  | case2 a b c d text _ ih =>
    obtain ⟨_, read, same⟩ := Option.map_eq_some_iff.mp found
    cases same
    have := ih read
    simp only [List.length_cons]
    omega
  | case3 => cases found
  | case4 c text _ _ ih =>
    obtain ⟨_, read, same⟩ := Option.map_eq_some_iff.mp found
    cases same
    have := ih read
    simp only [List.length_cons]
    omega
  | case5 => cases found
  | case6 =>
    cases found
    exact Nat.le_succ _
  | case7 => cases found
  | case8 c text _ _ _ _ ih =>
    obtain ⟨_, read, same⟩ := Option.map_eq_some_iff.mp found
    cases same
    exact Nat.le_succ_of_le (ih read)

/-- The first half of a pair of units. -/
def isHighUnit (unit : Nat) : Bool := 0xD800 ≤ unit && unit ≤ 0xDBFF

/-- The second half of a pair of units. -/
def isLowUnit (unit : Nat) : Bool := 0xDC00 ≤ unit && unit ≤ 0xDFFF

/-- Whether halves of pairs stand in pairs only. -/
def arePaired : List Nat → Bool
  | [] => true
  | [unit] => !isHighUnit unit && !isLowUnit unit
  | unit :: next :: units =>
    if isHighUnit unit then isLowUnit next && arePaired units
    else !isLowUnit unit && arePaired (next :: units)

/-- A text, behind its opening quote. A control character has to be escaped. -/
def quoted? (quote : Char) (text : Text) : Option (Literal × Text) :=
  (units? quote text).map fun (units, rest) =>
    let inside := text.take (text.length - rest.length)
    (flat (.collection units.isEmpty) (inside.all (' ' ≤ ·) && arePaired units), rest)

/-- Behind a quoted text the text is no longer. -/
theorem length_le_of_quoted? {quote : Char} {text rest : Text} {literal : Literal}
    (found : quoted? quote text = some (literal, rest)) : rest.length ≤ text.length := by
  obtain ⟨_, read, same⟩ := Option.map_eq_some_iff.mp found
  cases same
  exact length_le_of_units? read

/-! ### Numbers and words -/

/-- A minus sign, if there is one, and the text behind it. -/
def minus : Text → Bool × Text
  | '-' :: text => (true, text)
  | text => (false, text)

/-- Behind a sign the text is no longer. -/
theorem length_minus_le (text : Text) : (minus text).2.length ≤ text.length := by
  unfold minus
  split
  · exact Nat.le_succ _
  · exact Nat.le_refl _

/-- The exponent of a number, if it has one, and the text behind it. -/
def exponent (text : Text) : Int × Text :=
  match text with
  | 'E' :: text =>
    let (negative, digits) := minus text
    match digits.takeWhile Char.isDigit with
    | [] => (0, 'E' :: text)
    | size =>
      let size : Int := Text.numberOf 10 size
      (if negative then -size else size, digits.dropWhile Char.isDigit)
  | text => (0, text)

/-- Behind the exponent of a number the text is no longer. -/
theorem length_exponent_le (text : Text) : (exponent text).2.length ≤ text.length := by
  unfold exponent
  split
  · next inner =>
    dsimp only
    split
    · exact Nat.le_refl _
    · have digits : (minus inner).2.length ≤ inner.length := length_minus_le inner
      have := Text.length_dropWhile_le Char.isDigit (minus inner).2
      simp only [List.length_cons]
      omega
  · exact Nat.le_refl _

/-- A point, if there is one, and the text behind it. -/
def point : Text → Bool × Text
  | '.' :: text => (true, text)
  | text => (false, text)

/-- Behind a point the text is no longer. -/
theorem length_point_le (text : Text) : (point text).2.length ≤ text.length := by
  unfold point
  split
  · exact Nat.le_succ _
  · exact Nat.le_refl _

/-- A number, behind its sign: digits, a point with further digits, and an exponent. -/
def unsigned? (negative : Bool) (text : Text) : Option (Literal × Text) :=
  match text.takeWhile Char.isDigit with
  | [] => none
  | whole =>
    let (hasPoint, behind) := point (text.dropWhile Char.isDigit)
    let fraction := behind.takeWhile Char.isDigit
    let (power, rest) := exponent (behind.dropWhile Char.isDigit)
    if rest.head?.any Reference.isNamePart then none
    else
      let digits := Text.numberOf 10 (whole ++ fraction)
      let value : Double := .ofDecimal .double negative digits (power - fraction.length)
      let isJson := (whole.head? != some '0' || whole.length == 1) &&
        (!hasPoint || !fraction.isEmpty) && value.isFinite
      some (flat (.number value) isJson, rest)

/-- Behind a number the text is no longer. -/
theorem length_le_of_unsigned? {negative : Bool} {text rest : Text} {literal : Literal}
    (found : unsigned? negative text = some (literal, rest)) : rest.length ≤ text.length := by
  unfold unsigned? at found
  split at found
  · cases found
  · dsimp only at found
    split at found
    · cases found
    · cases found
      have := Text.length_dropWhile_le Char.isDigit text
      have := length_point_le (text.dropWhile Char.isDigit)
      have := Text.length_dropWhile_le Char.isDigit (point (text.dropWhile Char.isDigit)).2
      have := length_exponent_le ((point (text.dropWhile Char.isDigit)).2.dropWhile Char.isDigit)
      omega

/-- A number. -/
def number? (text : Text) : Option (Literal × Text) :=
  let (negative, unsigned) := minus text
  unsigned? negative unsigned

/-- A given word that is not part of a name. -/
def word? (word : Text) (value : Condition) (text : Text) : Option (Literal × Text) :=
  (Text.after? word text).bind fun rest =>
    if rest.head?.any Reference.isNamePart then none else some (flat value true, rest)

/-- A number or a word. -/
def plain? (text : Text) : Option (Literal × Text) :=
  (number? text).or ((word? "null".toList .null text).or
    ((word? "true".toList (.flag true) text).or (word? "false".toList (.flag false) text)))

/-- Behind a number or a word the text is no longer. -/
theorem length_le_of_plain? {text rest : Text} {literal : Literal}
    (found : plain? text = some (literal, rest)) : rest.length ≤ text.length := by
  have ofWord : ∀ {word : Text} {value : Condition},
      word? word value text = some (literal, rest) → rest.length ≤ text.length := by
    intro word value read
    obtain ⟨tail, after, kept⟩ := Option.bind_eq_some_iff.mp read
    split at kept
    · cases kept
    · cases kept
      rw [Text.after?_eq_some_iff.mp after, List.length_append]
      exact Nat.le_add_left _ _
  rcases Option.or_eq_some_iff.mp found with number | ⟨-, found⟩
  · exact Nat.le_trans (length_le_of_unsigned? number) (length_minus_le text)
  · rcases Option.or_eq_some_iff.mp found with null | ⟨-, found⟩
    · exact ofWord null
    · rcases Option.or_eq_some_iff.mp found with yes | ⟨-, no⟩
      · exact ofWord yes
      · exact ofWord no

/-! ### Lists and records -/

/-- A list or record of a first member, which may be missing, and others. -/
def collection (first : Option Literal) (others : List Literal) : Literal where
  value := .collection (first.isNone && others.isEmpty)
  isJson := first.all Literal.isJson && others.all Literal.isJson &&
    (first.isSome || others.isEmpty)
  depth := 1 + (first.toList ++ others).foldl (fun depth member => max depth member.depth) 0

/-- A text within a list or record. JSON has double quotes only. -/
def innerText? : Text → Option (Literal × Text)
  | '"' :: text => quoted? '"' text
  | '\'' :: text =>
    (quoted? '\'' text).map fun (literal, rest) => ({ literal with isJson := false }, rest)
  | _ => none

/-- Behind a text within a list or record the text is no longer. -/
theorem length_le_of_innerText? {text rest : Text} {literal : Literal}
    (found : innerText? text = some (literal, rest)) : rest.length ≤ text.length := by
  unfold innerText? at found
  split at found
  · exact Nat.le_succ_of_le (length_le_of_quoted? found)
  · obtain ⟨_, read, same⟩ := Option.map_eq_some_iff.mp found
    cases same
    exact Nat.le_succ_of_le (length_le_of_quoted? read)
  · cases found

mutual

/-- A value within a list or record; `depth` bounds how many values can lie in it. -/
def inner? (depth : Nat) (text : Text) : Option (Literal × Text) :=
  match depth with
  | 0 => none
  | depth + 1 =>
    match text with
    | '[' :: text => members? depth false ']' text
    | '\x7b' :: text => members? depth true '\x7d' text
    | text => (innerText? text).or (plain? text)

/-- The members of a list or record up to its closing sign. -/
def members? (depth : Nat) (named : Bool) (closing : Char) (text : Text) :
    Option (Literal × Text) :=
  match depth with
  | 0 => none
  | depth + 1 =>
    let (first, rest) : Option Literal × Text :=
      match member? depth named (Text.skipSpace text) with
      | some (member, rest) => (some member, rest)
      | none => (none, text)
    let (others, rest) := furtherMembers depth named rest
    (Text.after? [closing] (Text.skipSpace rest)).map (collection first others, ·)

/-- A member: a value, with a name in front of it in a record. -/
def member? (depth : Nat) (named : Bool) (text : Text) : Option (Literal × Text) :=
  match depth with
  | 0 => none
  | depth + 1 =>
    if named then
      match innerText? text with
      | none => none
      | some (name, rest) =>
        match Text.skipSpace rest with
        | ':' :: rest =>
          (inner? depth (Text.skipSpace rest)).map fun (value, rest) =>
            ({ value with isJson := name.isJson && value.isJson }, rest)
        | _ => none
    else inner? depth text

/-- The members that follow commas, and the text behind them. -/
def furtherMembers (depth : Nat) (named : Bool) (text : Text) : List Literal × Text :=
  match depth with
  | 0 => ([], text)
  | depth + 1 =>
    match Text.skipSpace text with
    | ',' :: rest =>
      match member? depth named (Text.skipSpace rest) with
      | none => ([], text)
      | some (member, rest) =>
        let (others, behind) := furtherMembers depth named rest
        (member :: others, behind)
    | _ => ([], text)

end

/-- What is left behind a value, the members of a list, one member or its followers is no longer
than the text. -/
theorem length_le_of_inner?_members?_member?_furtherMembers (depth : Nat) :
    (∀ {text rest : Text} {literal : Literal},
      inner? depth text = some (literal, rest) → rest.length ≤ text.length) ∧
    (∀ {named : Bool} {closing : Char} {text rest : Text} {literal : Literal},
      members? depth named closing text = some (literal, rest) → rest.length ≤ text.length) ∧
    (∀ {named : Bool} {text rest : Text} {literal : Literal},
      member? depth named text = some (literal, rest) → rest.length ≤ text.length) ∧
    (∀ (named : Bool) (text : Text),
      (furtherMembers depth named text).2.length ≤ text.length) := by
  induction depth with
  | zero =>
    refine ⟨?_, ?_, ?_, ?_⟩
    · intro text rest literal found
      rw [inner?] at found
      cases found
    · intro named closing text rest literal found
      rw [members?] at found
      cases found
    · intro named text rest literal found
      rw [member?] at found
      cases found
    · intro named text
      simp only [furtherMembers, Nat.le_refl]
  | succ depth ih =>
    obtain ⟨ofInner, ofMembers, ofMember, ofFurther⟩ := ih
    refine ⟨?_, ?_, ?_, ?_⟩
    · intro text rest literal found
      unfold inner? at found
      split at found
      · exact Nat.le_succ_of_le (ofMembers found)
      · exact Nat.le_succ_of_le (ofMembers found)
      · rcases Option.or_eq_some_iff.mp found with quoted | ⟨-, plain⟩
        · exact length_le_of_innerText? quoted
        · exact length_le_of_plain? plain
    · intro named closing text rest literal found
      have space := Text.length_skipSpace_le text
      rw [members?] at found
      obtain ⟨tail, closed, same⟩ := Option.map_eq_some_iff.mp found
      cases same
      have whole := congrArg List.length (Text.after?_eq_some_iff.mp closed)
      rw [List.length_append] at whole
      split at whole
      · next first behind read =>
        have := ofMember read
        have := ofFurther named behind
        have := Text.length_skipSpace_le (furtherMembers depth named behind).2
        dsimp only at whole
        omega
      · have := ofFurther named text
        have := Text.length_skipSpace_le (furtherMembers depth named text).2
        dsimp only at whole
        omega
    · intro named text rest literal found
      rw [member?] at found
      split at found
      · split at found
        · cases found
        · next name behind quoted =>
          have := length_le_of_innerText? quoted
          have space := Text.length_skipSpace_le behind
          split at found
          · next inner colon =>
            obtain ⟨_, read, same⟩ := Option.map_eq_some_iff.mp found
            cases same
            have := ofInner read
            have := Text.length_skipSpace_le inner
            rw [colon, List.length_cons] at space
            omega
          · cases found
      · exact ofInner found
    · intro named text
      have space := Text.length_skipSpace_le text
      rw [furtherMembers]
      split
      · next inner comma =>
        rw [comma, List.length_cons] at space
        split
        · exact Nat.le_refl _
        · next member behind read =>
          have := ofMember read
          have := ofFurther named behind
          have := Text.length_skipSpace_le inner
          dsimp only
          omega
      · exact Nat.le_refl _

/-- The value at the front of a text, and the text behind it. -/
def read? : Text → Option (Literal × Text)
  | '\'' :: text => quoted? '\'' text
  | text => inner? (3 * text.length) text

/-- Behind a value the text is no longer. -/
theorem length_le_of_read? {text rest : Text} {literal : Literal}
    (found : read? text = some (literal, rest)) : rest.length ≤ text.length := by
  unfold read? at found
  split at found
  · exact Nat.le_succ_of_le (length_le_of_quoted? found)
  · exact (length_le_of_inner?_members?_member?_furtherMembers _).1 found

end Literal

end IconComponents
