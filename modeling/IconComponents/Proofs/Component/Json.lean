/-
**Reading the literals of defaults.**

A default is written as a JSON literal: a text in quotes or a list of such texts. This module reads
JSON texts and lists of texts, with every escape that JSON has and white space wherever JSON allows
it, and shows that a written literal is read as what it was written for.

* `Json.character?`, `Json.inner?` — a character between quotes, and all of them;
* `Default.read?` — what a literal denotes;
* `read?_quote`, `read?_quoteAll` — the literals that are written are read back.
-/

import Mathlib.Data.List.Basic
import IconComponents.Text.Blank
import IconComponents.Text.Digits
import IconComponents.Text.Quoted

namespace IconComponents

namespace Json

/-! ### Characters between quotes -/

/-- Reads four hexadecimal digits. -/
def unit? : Text → Option (Nat × Text)
  | a :: b :: c :: d :: rest =>
    if [a, b, c, d].all Char.isHexDigit then some (Text.numberOf 16 [a, b, c, d], rest) else none
  | _ => none

/-- The character of an escape that is one letter long. -/
def shortEscape? : Char → Option Char
  | '"' => some '"'
  | '\\' => some '\\'
  | '/' => some '/'
  | 'b' => some '\x08'
  | 'f' => some '\x0c'
  | 'n' => some '\n'
  | 'r' => some '\r'
  | 't' => some '\t'
  | _ => none

/-- Whether a number is the first half of a character that needs two. -/
def isHigh (code : Nat) : Bool := 0xD800 ≤ code && code < 0xDC00

/-- Whether a number is the second half of such a character. -/
def isLow (code : Nat) : Bool := 0xDC00 ≤ code && code < 0xE000

/-- The character of two halves. -/
def ofHalves (high low : Nat) : Char :=
  Char.ofNat (0x10000 + (high - 0xD800) * 0x400 + (low - 0xDC00))

/-- Reads a character that is written by its number, behind `\u`. -/
def numbered? (text : Text) : Option (Char × Text) :=
  match unit? text with
  | none => none
  | some (code, rest) =>
    if isHigh code then
      match rest with
      | '\\' :: 'u' :: second =>
        match unit? second with
        | none => none
        | some (low, rest) =>
          if isLow low then some (ofHalves code low, rest) else none
      | _ => none
    else if isLow code then none
    else some (Char.ofNat code, rest)

/-- Reads one character between quotes. -/
def character? : Text → Option (Char × Text)
  | '\\' :: 'u' :: rest => numbered? rest
  | '\\' :: c :: rest => (shortEscape? c).map fun escaped => (escaped, rest)
  | c :: rest => if c = '"' || c = '\\' || c.toNat < 32 then none else some (c, rest)
  | [] => none

theorem length_lt_of_unit? {text rest : Text} {code : Nat} (found : unit? text = some (code, rest)) :
    rest.length < text.length := by
  unfold unit? at found
  split at found
  · split at found
    · cases found
      simp only [List.length_cons]
      omega
    · cases found
  · cases found

theorem length_lt_of_numbered? {text rest : Text} {c : Char}
    (found : numbered? text = some (c, rest)) : rest.length < text.length := by
  unfold numbered? at found
  split at found
  · cases found
  · next code behind first =>
    have shorter := length_lt_of_unit? first
    split at found
    · split at found
      · next second =>
        split at found
        · cases found
        · next low behind' other =>
          have further := length_lt_of_unit? other
          split at found
          · obtain ⟨-, rfl⟩ := Prod.mk.inj (Option.some.inj found)
            simp only [List.length_cons] at shorter
            omega
          · cases found
      · cases found
    · split at found
      · cases found
      · cases found
        exact shorter

theorem length_lt_of_character? {text rest : Text} {c : Char}
    (found : character? text = some (c, rest)) : rest.length < text.length := by
  unfold character? at found
  split at found
  · have := length_lt_of_numbered? found
    simp only [List.length_cons]
    omega
  · obtain ⟨escaped, -, same⟩ := Option.map_eq_some_iff.mp found
    cases same
    simp only [List.length_cons]
    omega
  · split at found
    · cases found
    · cases found
      simp
  · cases found

/-- Reads the characters up to the closing quote, and that quote. -/
def inner? (text : Text) : Option (Text × Text) :=
  if text.head? = some '"' then some ([], text.tail)
  else
    match found : character? text with
    | none => none
    | some (c, rest) =>
      have := length_lt_of_character? found
      (inner? rest).map fun (value, rest) => (c :: value, rest)
termination_by text.length

theorem length_lt_of_inner? {text value rest : Text} (found : inner? text = some (value, rest)) :
    rest.length < text.length := by
  induction size : text.length using Nat.strongRecOn generalizing text value rest with
  | _ n ih =>
    subst size
    rw [inner?] at found
    split at found
    · next quote =>
      cases found
      cases text with
      | nil => cases quote
      | cons c text => simp
    · split at found
      · cases found
      · next c behind taken =>
        have shorter := length_lt_of_character? taken
        obtain ⟨⟨value, rest⟩, further, same⟩ := Option.map_eq_some_iff.mp found
        cases same
        exact Nat.lt_trans (ih _ shorter further rfl) shorter

/-! ### What is written is read -/

/-- An escape by number stands for its character. -/
theorem character?_unicodeEscape {code : Nat} (small : code < 32) (rest : Text) :
    character? (Text.unicodeEscape code ++ rest) = some (Char.ofNat code, rest) := by
  have each : ∀ code < 32, Char.isHexDigit (Nat.digitChar (code / 16)) = true ∧
      Char.isHexDigit (Nat.digitChar (code % 16)) = true ∧
      Text.numberOf 16 ['0', '0', Nat.digitChar (code / 16), Nat.digitChar (code % 16)] = code := by
    decide
  obtain ⟨first, second, number⟩ := each code small
  have read : unit? ('0' :: '0' :: Nat.digitChar (code / 16) :: Nat.digitChar (code % 16) :: rest) =
      some (code, rest) := by
    rw [unit?, number, if_pos]
    simp only [List.all_cons, first, second]
    decide
  have notHigh : isHigh code = false := by
    rw [isHigh, decide_eq_false (by omega)]
    rfl
  have notLow : isLow code = false := by
    rw [isLow, decide_eq_false (by omega)]
    rfl
  have shape : Text.unicodeEscape code ++ rest =
      '\\' :: 'u' :: '0' :: '0' :: Nat.digitChar (code / 16) :: Nat.digitChar (code % 16) :: rest := by
    simp [Text.unicodeEscape]
  rw [shape, character?, numbered?, read]
  simp only [notHigh, notLow]
  rfl

/-- **Every escape is read as the character it was written for.** -/
theorem character?_escape (c : Char) (rest : Text) :
    character? (Text.escape c ++ rest) = some (c, rest) := by
  unfold Text.escape
  split
  · next same => rw [same]; rfl
  · next notQuote =>
    split
    · next same => rw [same]; rfl
    · next notBackslash =>
      split
      · next same => rw [same]; rfl
      · split
        · next same => rw [same]; rfl
        · split
          · next same => rw [same]; rfl
          · split
            · next same => rw [same]; rfl
            · split
              · next same => rw [same]; rfl
              · split
                · next small =>
                  rw [character?_unicodeEscape small, Char.ofNat_toNat]
                · next large =>
                  rw [List.singleton_append, character?]
                  · simp [notQuote, notBackslash, large]
                  · exact fun _ same _ => notBackslash same
                  · exact fun _ _ same _ => notBackslash same

/-- No escape starts with a quote. -/
theorem head?_escape (c : Char) (rest : Text) : (Text.escape c ++ rest).head? ≠ some '"' := by
  by_cases quote : c = '"'
  · subst quote
    simp [Text.escape]
  · unfold Text.escape
    rw [if_neg quote]
    repeat' split
    all_goals simp [Text.unicodeEscape, quote]

/-- The escapes of a text stand for the text. -/
theorem inner?_escape (value rest : Text) :
    inner? (value.flatMap Text.escape ++ '"' :: rest) = some (value, rest) := by
  induction value with
  | nil =>
    rw [inner?]
    rfl
  | cons c value ih =>
    have read := character?_escape c (value.flatMap Text.escape ++ '"' :: rest)
    rw [List.flatMap_cons, List.append_assoc, inner?, if_neg (head?_escape c _)]
    split
    · next none => rw [read] at none; cases none
    · next taken behind same =>
      rw [read] at same
      cases same
      rw [ih]
      rfl

/-! ### Lists -/

/-- Reads the texts of a list from one of them on, up to the bracket that ends the list. -/
def items? (text : Text) : Option (List Text × Text) :=
  match start : Text.skipSpace text with
  | '"' :: quoted =>
    match found : inner? quoted with
    | none => none
    | some (value, rest) =>
      match next : Text.skipSpace rest with
      | ',' :: further =>
        have : further.length < text.length := by
          have first := Text.length_skipSpace_le text
          have second := length_lt_of_inner? found
          have third := Text.length_skipSpace_le rest
          rw [start, List.length_cons] at first
          rw [next, List.length_cons] at third
          omega
        (items? further).map fun (values, rest) => (value :: values, rest)
      | ']' :: rest => some ([value], rest)
      | _ => none
  | _ => none
termination_by text.length

end Json

/-- What the literal of a default denotes. -/
inductive Default where
  | one (value : Text)
  | several (values : List Text)
  deriving Repr, DecidableEq

namespace Default

/-- Reads a text or a list of texts. -/
def start? (text : Text) : Option (Default × Text) :=
  match Text.skipSpace text with
  | '"' :: quoted => (Json.inner? quoted).map fun (value, rest) => (one value, rest)
  | '[' :: rest =>
    match Text.skipSpace rest with
    | ']' :: rest => some (several [], rest)
    | _ => (Json.items? rest).map fun (values, rest) => (several values, rest)
  | _ => none

/-- What a literal denotes. -/
def read? (literal : Text) : Option Default :=
  match start? literal with
  | none => none
  | some (value, rest) => if Text.skipSpace rest = [] then some value else none

end Default

/-! ### Written literals -/

theorem skipSpace_cons {c : Char} (solid : Char.isSpace c = false) (text : Text) :
    Text.skipSpace (c :: text) = c :: text := by
  rw [Text.skipSpace, List.dropWhile_cons_of_neg (by rw [solid]; decide)]

theorem quote_append (value rest : Text) :
    Text.quote value ++ rest = '"' :: (value.flatMap Text.escape ++ '"' :: rest) := by
  simp [Text.quote]

/-- A quoted text reads as this text. -/
theorem read?_quote (value : Text) : Default.read? (Text.quote value) = some (.one value) := by
  have shape := quote_append value []
  rw [List.append_nil] at shape
  rw [Default.read?, Default.start?, shape, skipSpace_cons (by decide)]
  simp only [Json.inner?_escape]
  rfl

/-- **The first text of a list.** What follows it decides whether the list goes on. -/
theorem items?_quote (value rest : Text) :
    Json.items? (Text.quote value ++ rest) =
      match Text.skipSpace rest with
      | ',' :: further => (Json.items? further).map fun (values, rest) => (value :: values, rest)
      | ']' :: behind => some ([value], behind)
      | _ => none := by
  have start : Text.skipSpace (Text.quote value ++ rest) =
      '"' :: (value.flatMap Text.escape ++ '"' :: rest) := by
    rw [quote_append, skipSpace_cons (by decide)]
  have read := Json.inner?_escape value rest
  conv_lhs => rw [Json.items?]
  split
  · next quoted same =>
    rw [start] at same
    cases same
    split
    · next none => rw [read] at none; cases none
    · next taken behind same =>
      rw [read] at same
      cases same
      split
      · next same => simp only [same]
      · next same => simp only [same]
      · next notComma notBracket =>
        split
        · next same => exact absurd same (notComma _)
        · next same => exact absurd same (notBracket _)
        · rfl
  · next other => exact absurd start (other _)

theorem items?_quote_bracket (value rest : Text) :
    Json.items? (Text.quote value ++ ']' :: rest) = some ([value], rest) := by
  rw [items?_quote, skipSpace_cons (by decide)]
  rfl

theorem items?_quote_comma (value further : Text) :
    Json.items? (Text.quote value ++ ',' :: further) =
      (Json.items? further).map fun (values, rest) => (value :: values, rest) := by
  rw [items?_quote, skipSpace_cons (by decide)]
  rfl

theorem items?_joined (value : Text) (values : List Text) (rest : Text) :
    Json.items? (Text.joinWith [','] ((value :: values).map Text.quote) ++ ']' :: rest) =
      some (value :: values, rest) := by
  induction values generalizing value with
  | nil =>
    rw [List.map_cons, List.map_nil, Text.joinWith, List.intercalate_singleton,
      items?_quote_bracket]
  | cons second values ih =>
    have split : Text.joinWith [','] ((value :: second :: values).map Text.quote) ++ ']' :: rest =
        Text.quote value ++
          ',' :: (Text.joinWith [','] ((second :: values).map Text.quote) ++ ']' :: rest) := by
      simp [Text.joinWith, List.intercalate_cons_cons]
    rw [split, items?_quote_comma, ih]
    rfl

/-- A list of quoted texts reads as this list. -/
theorem read?_quoteAll (values : List Text) :
    Default.read? (Text.quoteAll values) = some (.several values) := by
  rw [Default.read?, Default.start?, Text.quoteAll, List.cons_append, skipSpace_cons (by decide)]
  simp only
  cases values with
  | nil => rfl
  | cons value values =>
    obtain ⟨tail, first⟩ : ∃ tail,
        Text.joinWith [','] ((value :: values).map Text.quote) ++ [']'] = '"' :: tail := by
      cases values <;> simp [Text.joinWith, Text.quote, List.intercalate_cons_cons]
    have items := items?_joined value values []
    rw [first] at items
    rw [first, skipSpace_cons (by decide)]
    simp only [items]
    rfl

end IconComponents
