/-
**Texts in settings.**

A text stands between double quotes, with escapes, or between single quotes, without. Three quotes
instead of one make it a text of several lines: a line end directly behind them does not count, and
in double quotes a backslash at the end of a line joins it to the next visible character.

* `Toml.basic?`, `Toml.literal?` — a text on one line, behind its opening quote;
* `Toml.longBasic?`, `Toml.longLiteral?` — a text of several lines, behind its opening quotes.
-/

import IconComponents.Text.Digits

namespace IconComponents.Toml

/-- Whether a character can stand in a line as itself: the tab, and all but control characters. -/
def isVisible (c : Char) : Bool := c = '\t' || (0x20 ≤ c.toNat && c.toNat != 0x7F)

/-- The character of an escape with one letter. -/
def shortEscape? (c : Char) : Option Char :=
  if c = 'b' then some '\x08' else if c = 't' then some '\t' else if c = 'n' then some '\n'
  else if c = 'f' then some '\x0c' else if c = 'r' then some '\r' else if c = '"' then some '"'
  else if c = '\\' then some '\\' else none

/-- The number that hexadecimal digits write. -/
def hexNumber? (digits : Text) : Option Nat :=
  if digits.all Char.isHexDigit then some (Text.numberOf 16 digits) else none

/-- The character with a given code, if there is one. -/
def charOf? (code : Nat) : Option Char :=
  if code.isValidChar then some (Char.ofNat code) else none

/-- The character of an escape and the text behind it, behind the backslash. -/
def escaped? : Text → Option (Char × Text)
  | 'u' :: text =>
    if text.length < 4 then none
    else ((hexNumber? (text.take 4)).bind charOf?).map (·, text.drop 4)
  | 'U' :: text =>
    if text.length < 8 then none
    else ((hexNumber? (text.take 8)).bind charOf?).map (·, text.drop 8)
  | c :: text => (shortEscape? c).map (·, text)
  | [] => none

/-- What is left behind an escape is no longer than the text. -/
theorem length_le_of_escaped? {text rest : Text} {c : Char}
    (found : escaped? text = some (c, rest)) : rest.length ≤ text.length := by
  unfold escaped? at found
  split at found
  · split at found
    · cases found
    · obtain ⟨_, _, same⟩ := Option.map_eq_some_iff.mp found
      cases same
      simp only [List.length_drop, List.length_cons]
      omega
  · split at found
    · cases found
    · obtain ⟨_, _, same⟩ := Option.map_eq_some_iff.mp found
      cases same
      simp only [List.length_drop, List.length_cons]
      omega
  · obtain ⟨_, _, same⟩ := Option.map_eq_some_iff.mp found
    cases same
    simp
  · cases found

/-- A text in double quotes, up to its closing quote. -/
def basic? (text : Text) : Option (Text × Text) :=
  match text with
  | [] => none
  | '"' :: rest => some ([], rest)
  | '\\' :: escape =>
    match found : escaped? escape with
    | none => none
    | some (c, rest) =>
      have : rest.length ≤ escape.length := length_le_of_escaped? found
      (basic? rest).map fun (words, rest) => (c :: words, rest)
  | c :: rest =>
    if isVisible c then (basic? rest).map fun (words, rest) => (c :: words, rest)
    else none
termination_by text.length

/-- What is left behind a text in double quotes is no longer than the text. -/
theorem length_le_of_basic? {text words rest : Text}
    (found : basic? text = some (words, rest)) : rest.length ≤ text.length := by
  fun_induction basic? text generalizing words rest with
  | case1 => cases found
  | case2 =>
    cases found
    simp
  | case3 => cases found
  | case4 escape c tail escaped shorter ih =>
    obtain ⟨⟨others, last⟩, more, same⟩ := Option.map_eq_some_iff.mp found
    cases same
    have := ih more
    simp only [List.length_cons]
    omega
  | case5 c tail _ _ visible ih =>
    obtain ⟨⟨others, last⟩, more, same⟩ := Option.map_eq_some_iff.mp found
    cases same
    have := ih more
    simp only [List.length_cons]
    omega
  | case6 => cases found

/-- A text in single quotes, up to its closing quote. -/
def literal? : Text → Option (Text × Text)
  | [] => none
  | c :: rest =>
    if c = '\'' then some ([], rest)
    else if isVisible c then (literal? rest).map fun (words, rest) => (c :: words, rest)
    else none

/-- What is left behind a text in single quotes is no longer than the text. -/
theorem length_le_of_literal? {text words rest : Text}
    (found : literal? text = some (words, rest)) : rest.length ≤ text.length := by
  induction text generalizing words with
  | nil => cases found
  | cons c text ih =>
    rw [literal?] at found
    split at found
    · cases found
      simp
    · split at found
      · obtain ⟨⟨others, last⟩, more, same⟩ := Option.map_eq_some_iff.mp found
        cases same
        have := ih more
        simp only [List.length_cons]
        omega
      · cases found

/-! ### Several lines -/

/-- The text behind white space and line ends. -/
def skipLines : Text → Text
  | ' ' :: text => skipLines text
  | '\t' :: text => skipLines text
  | '\n' :: text => skipLines text
  | '\r' :: '\n' :: text => skipLines text
  | text => text

/-- The text behind a line end. -/
def lineEnd? : Text → Option Text
  | '\n' :: text => some text
  | '\r' :: '\n' :: text => some text
  | _ => none

/-- Skipping white space and line ends leaves no more than the text. -/
theorem length_skipLines_le (text : Text) : (skipLines text).length ≤ text.length := by
  fun_induction skipLines text <;> grind

/-- What is left behind a line end is shorter than the text. -/
theorem length_lt_of_lineEnd? {text rest : Text} (found : lineEnd? text = some rest) :
    rest.length < text.length := by
  unfold lineEnd? at found
  split at found <;> grind

/-- The end of a text of several lines: quotes that belong to it, and the text behind the three
closing ones. At most two quotes can stand directly before them. -/
def closing? (quote : Char) (text : Text) : Option (Text × Text) :=
  let run := (text.takeWhile (· == quote)).length
  if run < 3 then none
  else
    let taken := min run 5
    some (List.replicate (taken - 3) quote, text.drop taken)

/-- The next characters of a text of several lines, and the text behind them; `escapes` says that
a backslash escapes. -/
def longPart? (escapes : Bool) : Text → Option (Text × Text)
  | [] => none
  | c :: text =>
    if escapes && c = '\\' then
      match lineEnd? (text.dropWhile fun d => d = ' ' || d = '\t') with
      | some rest => some ([], skipLines rest)
      | none => (escaped? text).map fun (d, rest) => ([d], rest)
    else
      match lineEnd? (c :: text) with
      | some rest => some (['\n'], rest)
      | none => if isVisible c then some ([c], text) else none

/-- A part of a text of several lines takes at least one character. -/
theorem length_lt_of_longPart? {escapes : Bool} {text words rest : Text}
    (found : longPart? escapes text = some (words, rest)) : rest.length < text.length := by
  unfold longPart? at found
  split at found
  · cases found
  · next c text =>
    rw [List.length_cons]
    split at found
    · split at found
      · next behind ended =>
        cases found
        have line := length_lt_of_lineEnd? ended
        have space := Text.length_dropWhile_le (fun d => d = ' ' || d = '\t') text
        have := length_skipLines_le behind
        omega
      · obtain ⟨⟨d, tail⟩, escaped, same⟩ := Option.map_eq_some_iff.mp found
        cases same
        have := length_le_of_escaped? escaped
        omega
    · split at found
      · next ended =>
        cases found
        exact length_lt_of_lineEnd? ended
      · split at found
        · cases found
          exact Nat.lt_succ_self _
        · cases found

/-- The lines up to the closing quotes; `escapes` says that a backslash escapes. -/
def long? (quote : Char) (escapes : Bool) (text : Text) : Option (Text × Text) :=
  match closing? quote text with
  | some found => some found
  | none =>
    match found : longPart? escapes text with
    | none => none
    | some (words, rest) =>
      have : rest.length < text.length := length_lt_of_longPart? found
      (long? quote escapes rest).map fun (others, rest) => (words ++ others, rest)
termination_by text.length

/-- What is left behind the closing quotes is no longer than the text. -/
theorem length_le_of_long? {quote : Char} {escapes : Bool} {text words rest : Text}
    (found : long? quote escapes text = some (words, rest)) : rest.length ≤ text.length := by
  fun_induction long? quote escapes text generalizing words rest with
  | case1 text closed ended =>
    cases found
    simp only [closing?] at ended
    split at ended
    · cases ended
    · cases ended
      simp
  | case2 => cases found
  | case3 text _ part tail _ shorter ih =>
    obtain ⟨⟨others, last⟩, more, same⟩ := Option.map_eq_some_iff.mp found
    cases same
    have := ih more
    omega

/-- A text of several lines behind its opening quotes. -/
def afterOpening? (quote : Char) (escapes : Bool) (text : Text) : Option (Text × Text) :=
  long? quote escapes ((lineEnd? text).getD text)

/-- What is left behind a text of several lines is no longer than the text. -/
theorem length_le_of_afterOpening? {quote : Char} {escapes : Bool} {text words rest : Text}
    (found : afterOpening? quote escapes text = some (words, rest)) :
    rest.length ≤ text.length := by
  have inner := length_le_of_long? found
  cases ended : lineEnd? text with
  | none =>
    rw [ended] at inner
    exact inner
  | some behind =>
    rw [ended] at inner
    have := length_lt_of_lineEnd? ended
    simp only [Option.getD_some] at inner
    omega

/-- A text of several lines in double quotes. -/
def longBasic? (text : Text) : Option (Text × Text) := afterOpening? '"' true text

/-- A text of several lines in single quotes. -/
def longLiteral? (text : Text) : Option (Text × Text) := afterOpening? '\'' false text

end IconComponents.Toml
