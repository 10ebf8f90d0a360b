/-
**Reading documents of settings.**

A document is a sequence of lines: a key with its value, the head of a table, or nothing, each with
an optional comment.

* `Toml.value?` — a value at the front of a text;
* `Toml.statement?` — a line;
* `Toml.read?` — the document of a text, if it is well formed.
-/

import IconComponents.Toml.Document
import IconComponents.Toml.Quoted
import IconComponents.Toml.Scalar

namespace IconComponents.Toml

/-! ### White space and comments -/

/-- The text behind spaces and tabs. -/
def skip (text : Text) : Text := text.dropWhile fun c => c = ' ' || c = '\t'

/-- The text behind a comment, if there is one. -/
def skipComment : Text → Text
  | '#' :: text => text.dropWhile isVisible
  | text => text

/-- Skipping spaces and tabs leaves no more than the text. -/
theorem length_skip_le (text : Text) : (skip text).length ≤ text.length :=
  Text.length_dropWhile_le _ text

/-- Skipping a comment leaves no more than the text. -/
theorem length_skipComment_le (text : Text) : (skipComment text).length ≤ text.length := by
  unfold skipComment
  split
  · next rest =>
    have := Text.length_dropWhile_le isVisible rest
    simp only [List.length_cons]
    omega
  · exact Nat.le_refl _

/-- What is left behind a line with at most a comment on it is shorter than the text. -/
theorem length_lt_of_emptyLine {text behind : Text}
    (ended : lineEnd? (skipComment (skip text)) = some behind) : behind.length < text.length := by
  have := length_lt_of_lineEnd? ended
  have := length_skipComment_le (skip text)
  have := length_skip_le text
  omega

/-- The text behind white space, line ends and comments. -/
def skipAll (text : Text) : Text :=
  match ended : lineEnd? (skipComment (skip text)) with
  | some behind =>
    have : behind.length < text.length := length_lt_of_emptyLine ended
    skipAll behind
  | none => skipComment (skip text)
termination_by text.length

/-- Skipping empty lines leaves no more than the text. -/
theorem length_skipAll_le (text : Text) : (skipAll text).length ≤ text.length := by
  fun_induction skipAll text with
  | case1 text behind _ shorter ih => omega
  | case2 text =>
    exact Nat.le_trans (length_skipComment_le (skip text)) (length_skip_le text)

/-! ### Keys -/

/-- The characters of a key without quotes. -/
def isBare (c : Char) : Bool := c.isAlphanum || c = '_' || c = '-'

/-- One part of a key. -/
def simpleKey? : Text → Option (Text × Text)
  | '"' :: text => basic? text
  | '\'' :: text => literal? text
  | text =>
    match text.takeWhile isBare with
    | [] => none
    | name => some (name, text.dropWhile isBare)

/-- What is left behind one part of a key is no longer than the text. -/
theorem length_le_of_simpleKey? {text name rest : Text}
    (found : simpleKey? text = some (name, rest)) : rest.length ≤ text.length := by
  unfold simpleKey? at found
  split at found
  · exact Nat.le_succ_of_le (length_le_of_basic? found)
  · exact Nat.le_succ_of_le (length_le_of_literal? found)
  · split at found
    · cases found
    · cases found
      exact Text.length_dropWhile_le isBare text

/-- What is left behind a dot between two parts of a key is shorter than the text. -/
theorem length_lt_of_dot {text name rest behind : Text} {dot : Char}
    (found : simpleKey? (skip text) = some (name, rest)) (dotted : skip rest = dot :: behind) :
    behind.length < text.length := by
  have := length_le_of_simpleKey? found
  have := length_skip_le text
  have after := length_skip_le rest
  rw [dotted, List.length_cons] at after
  omega

/-- The parts of a key between its dots. -/
def parts? (text : Text) : Option (List Text × Text) :=
  match found : simpleKey? (skip text) with
  | none => none
  | some (name, rest) =>
    match dotted : skip rest with
    | '.' :: behind =>
      have : behind.length < text.length := length_lt_of_dot found dotted
      (parts? behind).map fun (names, rest) => (name :: names, rest)
    | rest => some ([name], rest)
termination_by text.length

/-- What is left behind the parts of a key is no longer than the text. -/
theorem length_le_of_parts? {text rest : Text} {names : List Text}
    (found : parts? text = some (names, rest)) : rest.length ≤ text.length := by
  fun_induction parts? text generalizing names rest with
  | case1 => cases found
  | case2 text name _ _ behind _ shorter ih =>
    obtain ⟨⟨others, last⟩, more, same⟩ := Option.map_eq_some_iff.mp found
    cases same
    have := ih more
    omega
  | case3 text name tail first =>
    cases found
    have := length_le_of_simpleKey? first
    have := length_skip_le text
    have := length_skip_le tail
    omega

/-- How many parts a key can have, and how many lists and inline tables can lie within each
other. -/
def nestingLimit : Nat := 79

/-- A key: not too many parts between dots. -/
def key? (text : Text) : Option (List Text × Text) :=
  (parts? text).filter fun (names, _) => names.length ≤ nestingLimit

/-- What is left behind a key is no longer than the text. -/
theorem length_le_of_key? {text rest : Text} {names : List Text}
    (found : key? text = some (names, rest)) : rest.length ≤ text.length :=
  length_le_of_parts? (Option.filter_eq_some_iff.mp found).1

/-! ### Values -/

/-- The characters of numbers, dates and words. -/
def isScalarPart (c : Char) : Bool :=
  c.isAlphanum || c = '_' || c = '+' || c = '-' || c = '.' || c = ':'

/-- The run of characters that a number, a date or a word is, and the rest. A space belongs to it if
it stands between a date and a time. -/
def scalarRun (text : Text) : Text × Text :=
  let run := text.takeWhile isScalarPart
  let rest := text.dropWhile isScalarPart
  match rest with
  | ' ' :: behind =>
    let time := behind.takeWhile isScalarPart
    if date? run == some [] && isMoment (run ++ ' ' :: time) then
      (run ++ ' ' :: time, behind.dropWhile isScalarPart)
    else (run, rest)
  | rest => (run, rest)

/-- A number, a date or a word. -/
def scalar? (text : Text) : Option (Value × Text) :=
  let (run, rest) := scalarRun text
  if run = "true".toList then some (.flag true, rest)
  else if run = "false".toList then some (.flag false, rest)
  else if isInteger run || isReal run || isMoment run then some (.other, rest)
  else none

/-- What is left behind a run is no longer than the text. -/
theorem length_scalarRun_le (text : Text) : (scalarRun text).2.length ≤ text.length := by
  have run := Text.length_dropWhile_le isScalarPart text
  simp only [scalarRun]
  split
  · next behind split =>
    split
    · have := Text.length_dropWhile_le isScalarPart behind
      rw [split, List.length_cons] at run
      exact Nat.le_trans this (Nat.le_of_succ_le run)
    · exact run
  · exact run

/-- What is left behind a number, a date or a word is no longer than the text. -/
theorem length_le_of_scalar? {text rest : Text} {value : Value}
    (found : scalar? text = some (value, rest)) : rest.length ≤ text.length := by
  have := length_scalarRun_le text
  simp only [scalar?] at found
  split at found
  · cases found
    exact this
  · split at found
    · cases found
      exact this
    · split at found
      · cases found
        exact this
      · cases found

mutual

/-- A value at the front of a text, and the text behind it; `depth` bounds how many values can lie
in it, and `nesting` how deep. -/
def value? (depth nesting : Nat) (text : Text) : Option (Value × Text) :=
  match depth with
  | 0 => none
  | depth + 1 =>
    match text with
    | '"' :: '"' :: '"' :: text => (longBasic? text).map fun (words, rest) => (.text words, rest)
    | '"' :: text => (basic? text).map fun (words, rest) => (.text words, rest)
    | '\'' :: '\'' :: '\'' :: text =>
      (longLiteral? text).map fun (words, rest) => (.text words, rest)
    | '\'' :: text => (literal? text).map fun (words, rest) => (.text words, rest)
    | '[' :: text => if nesting = 0 then none else (items? depth (nesting - 1) text).map (.other, ·)
    | '{' :: text =>
      if nesting = 0 then none
      else
        match skip text with
        | '\x7d' :: rest => some (.other, rest)
        | _ => (pairs? depth (nesting - 1) [] text).map (.other, ·)
    | text => scalar? text

/-- The text behind the rest of a list. -/
def items? (depth nesting : Nat) (text : Text) : Option Text :=
  match depth with
  | 0 => none
  | depth + 1 =>
    match skipAll text with
    | ']' :: rest => some rest
    | text =>
      match value? depth nesting text with
      | none => none
      | some (_, rest) =>
        match skipAll rest with
        | ',' :: rest => items? depth nesting rest
        | ']' :: rest => some rest
        | _ => none

/-- The text behind the rest of an inline table, with the entries so far. -/
def pairs? (depth nesting : Nat) (entries : Document) (text : Text) : Option Text :=
  match depth with
  | 0 => none
  | depth + 1 =>
    match key? text with
    | some (key, '=' :: rest) =>
      match value? depth nesting (skip rest) with
      | none => none
      | some (value, rest) =>
        match entries.define? [] key value with
        | none => none
        | some entries =>
          match skip rest with
          | ',' :: rest => pairs? depth nesting entries rest
          | '\x7d' :: rest => some rest
          | _ => none
    | _ => none

end

/-- What is left behind a value, a list or an inline table is no longer than the text. -/
theorem length_le_of_value?_items?_pairs? (depth : Nat) :
    (∀ {nesting : Nat} {text rest : Text} {value : Value},
      value? depth nesting text = some (value, rest) → rest.length ≤ text.length) ∧
    (∀ {nesting : Nat} {text rest : Text},
      items? depth nesting text = some rest → rest.length ≤ text.length) ∧
    (∀ {nesting : Nat} {entries : Document} {text rest : Text},
      pairs? depth nesting entries text = some rest → rest.length ≤ text.length) := by
  induction depth with
  | zero =>
    refine ⟨?_, ?_, ?_⟩
    · intro nesting text rest value found
      rw [value?] at found
      cases found
    · intro nesting text rest found
      rw [items?] at found
      cases found
    · intro nesting entries text rest found
      rw [pairs?] at found
      cases found
  | succ depth ih =>
    obtain ⟨ofValue, ofItems, ofPairs⟩ := ih
    refine ⟨?_, ?_, ?_⟩
    · intro nesting text rest value found
      unfold value? at found
      split at found
      · obtain ⟨_, inner, same⟩ := Option.map_eq_some_iff.mp found
        cases same
        have := length_le_of_afterOpening? inner
        simp only [List.length_cons]
        omega
      · obtain ⟨_, inner, same⟩ := Option.map_eq_some_iff.mp found
        cases same
        exact Nat.le_succ_of_le (length_le_of_basic? inner)
      · obtain ⟨_, inner, same⟩ := Option.map_eq_some_iff.mp found
        cases same
        have := length_le_of_afterOpening? inner
        simp only [List.length_cons]
        omega
      · obtain ⟨_, inner, same⟩ := Option.map_eq_some_iff.mp found
        cases same
        exact Nat.le_succ_of_le (length_le_of_literal? inner)
      · split at found
        · cases found
        · obtain ⟨_, inner, same⟩ := Option.map_eq_some_iff.mp found
          cases same
          exact Nat.le_succ_of_le (ofItems inner)
      · next text =>
        split at found
        · cases found
        · split at found
          · next closed =>
            cases found
            have space := length_skip_le text
            rw [closed, List.length_cons] at space
            simp only [List.length_cons]
            omega
          · obtain ⟨_, inner, same⟩ := Option.map_eq_some_iff.mp found
            cases same
            exact Nat.le_succ_of_le (ofPairs inner)
      · exact length_le_of_scalar? found
    · intro nesting text rest found
      have before := length_skipAll_le text
      rw [items?] at found
      split at found
      · next closed =>
        cases found
        rw [closed, List.length_cons] at before
        omega
      · split at found
        · cases found
        · next _ tail read =>
          have item := ofValue read
          have after := length_skipAll_le tail
          split at found
          · next behind comma =>
            have more := ofItems found
            rw [comma, List.length_cons] at after
            omega
          · next behind closed =>
            cases found
            rw [closed, List.length_cons] at after
            omega
          · cases found
    · intro nesting entries text rest found
      rw [pairs?] at found
      split at found
      · next key behind named =>
        have name := length_le_of_key? named
        rw [List.length_cons] at name
        have space := length_skip_le behind
        split at found
        · cases found
        · next value tail read =>
          have item := ofValue read
          have after := length_skip_le tail
          split at found
          · cases found
          · split at found
            · next more comma =>
              have := ofPairs found
              rw [comma, List.length_cons] at after
              omega
            · next more closed =>
              cases found
              rw [closed, List.length_cons] at after
              omega
            · cases found
      · cases found

/-- What is left behind a value is no longer than the text. -/
theorem length_le_of_value? {depth nesting : Nat} {text rest : Text} {value : Value}
    (found : value? depth nesting text = some (value, rest)) : rest.length ≤ text.length :=
  (length_le_of_value?_items?_pairs? depth).1 found

/-! ### Lines -/

/-- What a line says: nothing, that a key has a value, that a table starts, or the next table of a
list. -/
inductive Statement where
  | blank
  | define (key : List Text) (value : Value)
  | table (key : List Text)
  | element (key : List Text)
  deriving Repr, DecidableEq

/-- A line without its comment, and the text from there on. -/
def statement? (text : Text) : Option (Statement × Text) :=
  match skip text with
  | [] => some (.blank, [])
  | '#' :: text => some (.blank, '#' :: text)
  | '\n' :: text => some (.blank, '\n' :: text)
  | '\r' :: text => some (.blank, '\r' :: text)
  | '[' :: '[' :: text =>
    match key? text with
    | some (key, ']' :: ']' :: rest) => some (.element key, rest)
    | _ => none
  | '[' :: text =>
    match key? text with
    | some (key, ']' :: rest) => some (.table key, rest)
    | _ => none
  | text =>
    match key? text with
    | some (key, '=' :: rest) =>
      (value? text.length nestingLimit (skip rest)).map fun (value, rest) =>
        (.define key value, rest)
    | _ => none

/-- What is left behind a line's statement is no longer than the text. -/
theorem length_le_of_statement? {text rest : Text} {statement : Statement}
    (found : statement? text = some (statement, rest)) : rest.length ≤ text.length := by
  have space := length_skip_le text
  unfold statement? at found
  split at found
  · cases found
    exact Nat.zero_le _
  · next line =>
    cases found
    rw [line] at space
    exact space
  · next line =>
    cases found
    rw [line] at space
    exact space
  · next line =>
    cases found
    rw [line] at space
    exact space
  · next line =>
    rw [line, List.length_cons, List.length_cons] at space
    split at found
    · next named =>
      cases found
      have := length_le_of_key? named
      simp only [List.length_cons] at this
      omega
    · cases found
  · next _ line =>
    rw [line, List.length_cons] at space
    split at found
    · next named =>
      cases found
      have := length_le_of_key? named
      simp only [List.length_cons] at this
      omega
    · cases found
  · split at found
    · next behind named =>
      obtain ⟨_, read, same⟩ := Option.map_eq_some_iff.mp found
      cases same
      have name := length_le_of_key? named
      have := length_le_of_value? read
      have := length_skip_le behind
      rw [List.length_cons] at name
      omega
    · cases found

/-- The next line of a text starts behind the line's statement. -/
theorem length_lt_of_nextLine {text rest behind : Text} {statement : Statement}
    (found : statement? text = some (statement, rest))
    (ended : lineEnd? (skipComment (skip rest)) = some behind) : behind.length < text.length :=
  Nat.lt_of_lt_of_le (length_lt_of_emptyLine ended) (length_le_of_statement? found)

/-- The statements of a text, line by line. -/
def statements? (text : Text) : Option (List Statement) :=
  if text.isEmpty then some []
  else
    match found : statement? text with
    | none => none
    | some (statement, rest) =>
      if (skipComment (skip rest)).isEmpty then some [statement]
      else
        match ended : lineEnd? (skipComment (skip rest)) with
        | none => none
        | some behind =>
          have : behind.length < text.length := length_lt_of_nextLine found ended
          (statements? behind).map (statement :: ·)
termination_by text.length

/-- Behind the end of a line there are others. -/
theorem statements?_next {text rest behind : Text} {statement : Statement}
    (found : statement? text = some (statement, rest)) (nonempty : text ≠ [])
    (ended : lineEnd? (skipComment (skip rest)) = some behind) :
    statements? text = (statements? behind).map (statement :: ·) := by
  have more : skipComment (skip rest) ≠ [] := fun none => by
    rw [none] at ended
    cases ended
  rw [statements?, if_neg (by simpa using nonempty)]
  split
  · next none =>
    rw [found] at none
    cases none
  · next found' =>
    rw [found] at found'
    cases found'
    rw [if_neg (by simpa using more)]
    split
    · next none =>
      rw [ended] at none
      cases none
    · next ended' =>
      rw [ended] at ended'
      cases ended'
      rfl

/-- The document that statements make, from the table at a path on. -/
def documentOf? : List Statement → List Step → Document → Option Document
  | [], _, document => some document
  | .blank :: statements, path, document => documentOf? statements path document
  | .define key value :: statements, path, document =>
    (document.define? path key value).bind (documentOf? statements path)
  | .table key :: statements, _, document =>
    (document.open? key).bind fun (path, document) => documentOf? statements path document
  | .element key :: statements, _, document =>
    (document.append? key).bind fun (path, document) => documentOf? statements path document

/-- The text without a byte order mark at its start. -/
def dropMark : Text → Text
  | '\ufeff' :: text => text
  | text => text

/-- The document of a text. -/
def read? (text : Text) : Option Document :=
  (statements? (dropMark text)).bind fun statements => documentOf? statements [] []

end IconComponents.Toml
