/-
**The declarations of a style.**

A style is a row of declarations: a name, a colon, a value and perhaps a mark that the value is
important, with semicolons behind it. A value is a row of terms; white space and comments can stand
between any two parts. The first declaration that is malformed ends the style.

* `Declaration` — a name with its value;
* `declarations` — the declarations of a style.
-/

import IconComponents.Text.Blank
import IconComponents.Text.Digits

namespace IconComponents.Svg

/-- A declaration of a style, and whether it stands above those that are not important. -/
structure Declaration where
  name : Text
  value : Text
  important : Bool
  deriving Repr, DecidableEq

/-! ### Comments -/

/-- What is left behind a mark is no longer than the text. -/
theorem length_le_of_cut? {mark text before rest : Text}
    (found : Text.cut? mark text = some (before, rest)) : rest.length ≤ text.length := by
  have := congrArg List.length (Text.eq_append_of_cut? found)
  simp only [List.length_append] at this
  omega

/-- Behind white space and a comment the text is shorter. -/
theorem length_lt_of_comment {text inner before rest : Text}
    (start : Text.skipSpace text = '/' :: '*' :: inner)
    (closed : Text.cut? "*/".toList inner = some (before, rest)) : rest.length < text.length := by
  have skipped := Text.length_skipSpace_le text
  have := length_le_of_cut? closed
  rw [start, List.length_cons, List.length_cons] at skipped
  omega

/-- The text behind white space and comments; none if a comment is not closed. -/
def skipComments? (text : Text) : Option Text :=
  match start : Text.skipSpace text with
  | '/' :: '*' :: inner =>
    match closed : Text.cut? "*/".toList inner with
    | none => none
    | some (_, rest) =>
      have : rest.length < text.length := length_lt_of_comment start closed
      skipComments? rest
  | rest => some rest
termination_by text.length

/-- Behind white space and comments the text is no longer. -/
theorem length_le_of_skipComments? {text rest : Text} (found : skipComments? text = some rest) :
    rest.length ≤ text.length := by
  fun_induction skipComments? text with
  | case1 => exact absurd found (by simp)
  | case2 text inner start before behind closed shorter hypothesis =>
    exact Nat.le_trans (hypothesis found) (Nat.le_of_lt shorter)
  | case3 text other =>
    obtain rfl := Option.some.inj found
    exact Text.length_skipSpace_le text

/-! ### Terms -/

/-- Where reading stopped: whether what was looked for is there, and the text behind it, or from the
first wrong character on. -/
structure Attempt where
  found : Bool
  rest : Text
  deriving Repr, DecidableEq

/-- Whether a character can start an identifier. -/
def isIdentifierStart (c : Char) : Bool := c.isAlpha || c = '_' || 237 < c.toNat

/-- Whether a character can stand in an identifier. -/
def isIdentifierPart (c : Char) : Bool := isIdentifierStart c || c.isDigit || c = '-'

/-- The text behind a hyphen, if there is one. -/
def skipHyphen : Text → Text
  | '-' :: text => text
  | text => text

/-- Read an identifier; a hyphen can stand in front of it, and at the end of a text alone. -/
def identifier (text : Text) : Attempt :=
  match skipHyphen text with
  | [] => ⟨!text.isEmpty, []⟩
  | c :: rest =>
    if isIdentifierStart c then ⟨true, rest.dropWhile isIdentifierPart⟩ else ⟨false, c :: rest⟩

/-- Read an identifier with what stands in brackets behind it. -/
def call (text : Text) : Attempt :=
  match identifier text with
  | ⟨true, '(' :: inner⟩ =>
    match inner.dropWhile (· != ')') with
    | [] => ⟨false, []⟩
    | _ :: rest => ⟨true, rest⟩
  | attempt => attempt

/-- The text behind a closing quotation mark; a backslash takes its meaning from the next one. -/
def behindQuote? (quote : Char) (escaped : Bool) : Text → Option Text
  | [] => none
  | c :: rest => if c = quote && !escaped then some rest else behindQuote? quote (c = '\\') rest

/-- The text behind the unit of a number. -/
def behindUnit : Text → Text
  | '%' :: text => text
  | text => (identifier text).rest

/-- The text behind the digits of a number, a point among them, and its unit. -/
def behindNumber (text : Text) : Text :=
  match text.dropWhile Char.isDigit with
  | '.' :: fraction => behindUnit (fraction.dropWhile Char.isDigit)
  | rest => behindUnit rest

/-- The text behind a colour or a name that follows a number sign. -/
def behindHash (text : Text) : Text :=
  match identifier text with
  | ⟨true, rest⟩ => rest
  | ⟨false, rest⟩ => rest.dropWhile Char.isHexDigit

/-- Whether a text goes on with a number without a sign. -/
def goesOnWithNumber (text : Text) : Bool := text.head?.any fun c => c.isDigit || c = '.'

/-- Read a term of a value. -/
def term : Text → Attempt
  | [] => ⟨false, []⟩
  | c :: text =>
    if c = '#' then ⟨true, behindHash text⟩
    else if c = '+' then ⟨true, text.dropWhile Char.isDigit⟩
    else if c = ',' then ⟨true, text⟩
    else if c = '.' then ⟨true, behindUnit (text.dropWhile Char.isDigit)⟩
    else if c.isDigit || (c = '-' && goesOnWithNumber text) then ⟨true, behindNumber text⟩
    else if c = '"' || c = '\'' then
      match behindQuote? c false text with
      | some rest => ⟨true, rest⟩
      | none => ⟨false, []⟩
    else call (c :: text)

/-! ### Progress -/

/-- Behind a hyphen the text is no longer. -/
theorem length_skipHyphen_le (text : Text) : (skipHyphen text).length ≤ text.length := by
  unfold skipHyphen
  split <;> simp

/-- Behind an identifier the text is no longer. -/
theorem length_identifier_le (text : Text) : (identifier text).rest.length ≤ text.length := by
  have behind := length_skipHyphen_le text
  unfold identifier
  split
  · exact Nat.zero_le _
  · next c rest start =>
    have := Text.length_dropWhile_le isIdentifierPart rest
    rw [start, List.length_cons] at behind
    split
    · exact Nat.le_trans this (by omega)
    · simpa using behind

/-- An identifier takes at least one character. -/
theorem length_lt_of_identifier {text rest : Text} (read : identifier text = ⟨true, rest⟩) :
    rest.length < text.length := by
  have behind := length_skipHyphen_le text
  unfold identifier at read
  split at read
  · obtain ⟨nonempty, rfl⟩ := Attempt.mk.inj read
    exact List.length_pos_iff.mpr (by simpa using nonempty)
  · next c inner start =>
    rw [start, List.length_cons] at behind
    split at read
    · obtain ⟨-, rfl⟩ := Attempt.mk.inj read
      have := Text.length_dropWhile_le isIdentifierPart inner
      omega
    · exact absurd (Attempt.mk.inj read).1 (by simp)

/-- An identifier with brackets takes at least one character. -/
theorem length_lt_of_call {text rest : Text} (read : call text = ⟨true, rest⟩) :
    rest.length < text.length := by
  unfold call at read
  split at read
  · next inner named =>
    have shorter := length_lt_of_identifier named
    rw [List.length_cons] at shorter
    split at read
    · exact absurd (Attempt.mk.inj read).1 (by simp)
    · next closed =>
      obtain ⟨-, rfl⟩ := Attempt.mk.inj read
      have dropped := Text.length_dropWhile_le (· != ')') inner
      rw [closed, List.length_cons] at dropped
      omega
  · exact length_lt_of_identifier read

/-- Behind a closing quotation mark the text is shorter. -/
theorem length_lt_of_behindQuote? {quote : Char} {escaped : Bool} {text rest : Text}
    (found : behindQuote? quote escaped text = some rest) : rest.length < text.length := by
  induction text generalizing escaped with
  | nil => exact absurd found (by simp [behindQuote?])
  | cons c text hypothesis =>
    unfold behindQuote? at found
    split at found
    · obtain rfl := Option.some.inj found
      exact Nat.lt_succ_self _
    · exact Nat.lt_succ_of_lt (hypothesis found)

/-- Behind a unit the text is no longer. -/
theorem length_behindUnit_le (text : Text) : (behindUnit text).length ≤ text.length := by
  unfold behindUnit
  split
  · exact Nat.le_succ _
  · exact length_identifier_le _

/-- Behind a number the text is no longer. -/
theorem length_behindNumber_le (text : Text) : (behindNumber text).length ≤ text.length := by
  have whole := Text.length_dropWhile_le Char.isDigit text
  unfold behindNumber
  split
  · next fraction point =>
    have := Text.length_dropWhile_le Char.isDigit fraction
    have := length_behindUnit_le (fraction.dropWhile Char.isDigit)
    rw [point, List.length_cons] at whole
    omega
  · exact Nat.le_trans (length_behindUnit_le _) whole

/-- Behind a number sign and what belongs to it the text is no longer. -/
theorem length_behindHash_le (text : Text) : (behindHash text).length ≤ text.length := by
  have named := length_identifier_le text
  unfold behindHash
  split
  · next rest read =>
    rw [read] at named
    exact named
  · next rest read =>
    rw [read] at named
    exact Nat.le_trans (Text.length_dropWhile_le _ rest) named

/-- A term takes at least one character. -/
theorem length_lt_of_term {text rest : Text} (read : term text = ⟨true, rest⟩) :
    rest.length < text.length := by
  unfold term at read
  split at read
  · exact absurd (Attempt.mk.inj read).1 (by simp)
  · next c inner =>
    rw [List.length_cons, Nat.lt_succ_iff]
    split at read
    · obtain ⟨-, rfl⟩ := Attempt.mk.inj read
      exact length_behindHash_le inner
    split at read
    · obtain ⟨-, rfl⟩ := Attempt.mk.inj read
      exact Text.length_dropWhile_le _ inner
    split at read
    · obtain ⟨-, rfl⟩ := Attempt.mk.inj read
      exact Nat.le_refl _
    split at read
    · obtain ⟨-, rfl⟩ := Attempt.mk.inj read
      exact Nat.le_trans (length_behindUnit_le _) (Text.length_dropWhile_le _ inner)
    split at read
    · obtain ⟨-, rfl⟩ := Attempt.mk.inj read
      exact length_behindNumber_le inner
    split at read
    · split at read
      · next quoted =>
        obtain ⟨-, rfl⟩ := Attempt.mk.inj read
        exact Nat.le_of_lt (length_lt_of_behindQuote? quoted)
      · exact absurd (Attempt.mk.inj read).1 (by simp)
    · exact Nat.lt_succ_iff.mp (length_lt_of_call read)

/-- Where reading a call stops the text is no longer. -/
theorem length_call_le (text : Text) : (call text).rest.length ≤ text.length := by
  have named := length_identifier_le text
  unfold call
  split
  · next inner read =>
    have dropped := Text.length_dropWhile_le (· != ')') inner
    rw [read, List.length_cons] at named
    split
    · exact Nat.zero_le _
    · next closed =>
      rw [closed, List.length_cons] at dropped
      simp only
      omega
  · exact named

/-- Where reading a term stops the text is no longer. -/
theorem length_term_le (text : Text) : (term text).rest.length ≤ text.length := by
  cases read : term text with
  | mk found rest =>
    cases found with
    | true => exact Nat.le_of_lt (length_lt_of_term read)
    | false =>
      unfold term at read
      split at read
      · obtain ⟨-, rfl⟩ := Attempt.mk.inj read
        exact Nat.le_refl _
      · next c inner =>
        iterate 5
          split at read
          · exact absurd (Attempt.mk.inj read).1 (by simp)
        split at read
        · split at read
          · exact absurd (Attempt.mk.inj read).1 (by simp)
          · obtain ⟨-, rfl⟩ := Attempt.mk.inj read
            exact Nat.zero_le _
        · have := length_call_le (c :: inner)
          rw [read] at this
          exact this

/-! ### Values -/

/-- Read the terms of a value: what is left behind the last one, and the text from where reading
stopped on. `last` is what is left behind the term before. A comment that is not closed leaves
nothing. -/
def terms? (last text : Text) : Option (Text × Text) :=
  match read : term text with
  | ⟨false, rest⟩ => some (last, rest)
  | ⟨true, rest⟩ =>
    match skipped : skipComments? rest with
    | none => none
    | some behind =>
      have : behind.length < text.length :=
        Nat.lt_of_le_of_lt (length_le_of_skipComments? skipped) (length_lt_of_term read)
      terms? rest behind
termination_by text.length

/-- Whether a value is marked as important, and the text behind the mark. -/
def importance? : Text → Option (Bool × Text)
  | '!' :: text =>
    (skipComments? text).map fun text =>
      match Text.after? "important".toList text with
      | some rest => (true, rest)
      | none => (false, text)
  | text => some (false, text)

/-- The text behind semicolons. -/
def skipSemicolons? (text : Text) : Option Text :=
  match skipped : skipComments? text with
  | some (';' :: rest) =>
    have : rest.length < text.length := length_le_of_skipComments? skipped
    skipSemicolons? rest
  | other => other
termination_by text.length

/-- The text behind a star, if there is one. -/
def skipStar : Text → Text
  | '*' :: text => text
  | text => text

/-- The name of a declaration, and the text behind its colon. -/
def declaredName? (text : Text) : Option (Text × Text) := do
  let start := skipStar (← skipComments? text)
  match identifier start with
  | ⟨true, rest⟩ =>
    match ← skipComments? rest with
    | ':' :: behind => some (start.take (start.length - rest.length), behind)
    | _ => none
  | ⟨false, _⟩ => none

/-- The value of a declaration, whether it is important, and the text behind its semicolons. -/
def declaredValue? (text : Text) : Option (Text × Bool × Text) := do
  let start ← skipComments? text
  let (last, rest) ← terms? start start
  let value := Text.trim (start.take (start.length - last.length))
  let (important, rest) ← importance? (← skipComments? rest)
  let rest ← skipSemicolons? rest
  if value.isEmpty then none else some (value, important, rest)

/-! ### Declarations -/

/-- Where reading terms stops the text is no longer. -/
theorem length_le_of_terms? {last text behindLast rest : Text}
    (found : terms? last text = some (behindLast, rest)) : rest.length ≤ text.length := by
  fun_induction terms? last text with
  | case1 last text stopped read =>
    obtain ⟨-, rfl⟩ := Prod.mk.inj (Option.some.inj found)
    have := length_term_le text
    rw [read] at this
    exact this
  | case2 => exact absurd found (by simp)
  | case3 last text behindTerm read behind skipped shorter hypothesis =>
    exact Nat.le_trans (hypothesis found) (Nat.le_of_lt shorter)

/-- Behind the mark of an important value the text is no longer. -/
theorem length_le_of_importance? {text rest : Text} {important : Bool}
    (found : importance? text = some (important, rest)) : rest.length ≤ text.length := by
  unfold importance? at found
  split at found
  · next inner =>
    obtain ⟨behind, skipped, same⟩ := Option.map_eq_some_iff.mp found
    have := length_le_of_skipComments? skipped
    rw [List.length_cons]
    split at same
    · next tail marked =>
      obtain ⟨-, rfl⟩ := Prod.mk.inj same
      have := Text.length_lt_of_after? (by decide) marked
      omega
    · obtain ⟨-, rfl⟩ := Prod.mk.inj same
      omega
  · obtain ⟨-, rfl⟩ := Prod.mk.inj (Option.some.inj found)
    exact Nat.le_refl _

/-- Behind semicolons the text is no longer. -/
theorem length_le_of_skipSemicolons? {text rest : Text} (found : skipSemicolons? text = some rest) :
    rest.length ≤ text.length := by
  fun_induction skipSemicolons? text with
  | case1 text behind skipped shorter hypothesis =>
    exact Nat.le_trans (hypothesis found) (Nat.le_of_lt shorter)
  | case2 => exact length_le_of_skipComments? found

/-- Behind a star the text is no longer. -/
theorem length_skipStar_le (text : Text) : (skipStar text).length ≤ text.length := by
  unfold skipStar
  split <;> simp

/-- Behind a name and its colon the text is shorter. -/
theorem length_lt_of_declaredName? {text name rest : Text}
    (found : declaredName? text = some (name, rest)) : rest.length < text.length := by
  obtain ⟨start, skipped, found⟩ := Option.bind_eq_some_iff.mp found
  have := length_le_of_skipComments? skipped
  have := length_skipStar_le start
  simp only at found
  split at found
  · next behindName read =>
    obtain ⟨behind, gap, found⟩ := Option.bind_eq_some_iff.mp found
    have := length_lt_of_identifier read
    have := length_le_of_skipComments? gap
    split at found
    · obtain ⟨-, rfl⟩ := Prod.mk.inj (Option.some.inj found)
      rw [List.length_cons] at *
      omega
    · exact absurd found (by simp)
  · exact absurd found (by simp)

/-- Behind a value the text is no longer. -/
theorem length_le_of_declaredValue? {text value rest : Text} {important : Bool}
    (found : declaredValue? text = some (value, important, rest)) : rest.length ≤ text.length := by
  obtain ⟨start, skipped, found⟩ := Option.bind_eq_some_iff.mp found
  obtain ⟨⟨last, stopped⟩, terms, found⟩ := Option.bind_eq_some_iff.mp found
  obtain ⟨behind, gap, found⟩ := Option.bind_eq_some_iff.mp found
  obtain ⟨⟨mark, tail⟩, marked, found⟩ := Option.bind_eq_some_iff.mp found
  obtain ⟨next, semicolons, found⟩ := Option.bind_eq_some_iff.mp found
  have := length_le_of_skipComments? skipped
  have := length_le_of_terms? terms
  have := length_le_of_skipComments? gap
  have := length_le_of_importance? marked
  have := length_le_of_skipSemicolons? semicolons
  split at found
  · exact absurd found (by simp)
  · simp only [Option.some.injEq, Prod.mk.injEq] at found
    obtain ⟨-, -, rfl⟩ := found
    omega

/-- The declarations of a style up to the first that is malformed. -/
def declarations (text : Text) : List Declaration :=
  match named : declaredName? text with
  | none => []
  | some (name, start) =>
    match given : declaredValue? start with
    | none => []
    | some (value, important, rest) =>
      have : rest.length < text.length :=
        Nat.lt_of_le_of_lt (length_le_of_declaredValue? given) (length_lt_of_declaredName? named)
      ⟨name, value, important⟩ :: declarations rest
termination_by text.length

end IconComponents.Svg
