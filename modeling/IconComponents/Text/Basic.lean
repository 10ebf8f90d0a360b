/-
**Text as a list of characters.**

Every pass of the library reads text from left to right, so text is kept as the list of its
characters and each pass is a recursion on that list. This module holds the operations that know
nothing about icons:

* `Text.after?` — what follows a given start; `after?_eq_some_iff` is its whole meaning;
* `Text.cut?`, `Text.contains` — the first occurrence of a needle, and whether there is one;
* `Text.replaceAll` — every occurrence, found left to right without overlap;
* `Text.joinWith`, `Text.splitWhere`, `Text.lower`, `Text.before`, and the sorted distinct list
  `Text.sortedDistinct`, ordered by code point;
* `Text.byteLength` — the length of a text in bytes.
-/

namespace IconComponents

/-- A text: the list of its characters. -/
abbrev Text := List Char

namespace Text

/-! ### Starts and occurrences -/

/-- What follows `needle` in `text`, if the text starts with it. -/
def after? : Text → Text → Option Text
  | [], text => some text
  | _ :: _, [] => none
  | n :: needle, c :: text => if n = c then after? needle text else none

theorem after?_eq_some_iff {needle text rest : Text} :
    after? needle text = some rest ↔ text = needle ++ rest := by
  induction needle generalizing text with
  | nil => simp [after?, eq_comm]
  | cons n needle ih =>
    cases text with
    | nil => simp [after?]
    | cons c text =>
      by_cases same : n = c
      · simp [after?, same, ih]
      · simp [after?, same, Ne.symm same]

/-- What follows a non-empty start is shorter than the text. -/
theorem length_lt_of_after? {needle text rest : Text} (nonempty : needle ≠ [])
    (found : after? needle text = some rest) : rest.length < text.length := by
  rw [after?_eq_some_iff.mp found, List.length_append]
  have := List.length_pos_iff.mpr nonempty
  omega

/-- Whether `text` starts with `needle`. -/
def startsWith (text needle : Text) : Bool := (after? needle text).isSome

/-- The text before the first occurrence of `needle` and the text after it. -/
def cut? (needle : Text) : Text → Option (Text × Text)
  | [] => if needle = [] then some ([], []) else none
  | c :: text =>
    match after? needle (c :: text) with
    | some rest => some ([], rest)
    | none => (cut? needle text).map fun (before, rest) => (c :: before, rest)

/-- Whether `needle` occurs in `text`. -/
def contains (text needle : Text) : Bool := (cut? needle text).isSome

theorem eq_append_of_cut? {needle text before rest : Text}
    (found : cut? needle text = some (before, rest)) : text = before ++ needle ++ rest := by
  induction text generalizing before with
  | nil =>
    by_cases empty : needle = []
    · simp_all [cut?]
    · simp [cut?, empty] at found
  | cons c text ih =>
    rw [cut?] at found
    split at found
    · next start =>
      obtain ⟨rfl, rfl⟩ := Prod.mk.inj (Option.some.inj found)
      simpa using after?_eq_some_iff.mp start
    · obtain ⟨⟨b, r⟩, later, same⟩ := Option.map_eq_some_iff.mp found
      obtain ⟨rfl, rfl⟩ := Prod.mk.inj same
      simp [ih later]

/-- Every occurrence of `needle`, found from left to right without overlap, becomes
`replacement`. An empty needle occurs nowhere. -/
def replaceAll (needle replacement : Text) : Text → Text
  | [] => []
  | c :: text =>
    if nonempty : needle = [] then c :: text
    else
      match found : after? needle (c :: text) with
      | some rest =>
        have : rest.length ≤ text.length :=
          Nat.le_of_lt_succ (length_lt_of_after? nonempty found)
        replacement ++ replaceAll needle replacement rest
      | none => c :: replaceAll needle replacement text
termination_by text => text.length

/-- What is left after dropping a run is no longer than the text. -/
theorem length_dropWhile_le (p : Char → Bool) (text : Text) :
    (text.dropWhile p).length ≤ text.length := (List.dropWhile_suffix p).length_le

/-! ### Pieces -/

/-- The texts of `parts` with `separator` between neighbours. -/
def joinWith (separator : Text) (parts : List Text) : Text := separator.intercalate parts

/-- The pieces of a text between the characters that satisfy `separates`; always at least one. -/
def splitWhere (separates : Char → Bool) : Text → List Text
  | [] => [[]]
  | c :: text =>
    if separates c then [] :: splitWhere separates text
    else
      match splitWhere separates text with
      | [] => [[c]]
      | piece :: pieces => (c :: piece) :: pieces

/-- The pieces of a text between the characters equal to `separator`. -/
def splitOn (separator : Char) (text : Text) : List Text := splitWhere (· == separator) text

/-- The text up to the first character equal to `stop`. -/
def upTo (stop : Char) (text : Text) : Text := text.takeWhile (· != stop)

/-! ### ASCII letter case -/

/-- ASCII capital letters become small; all else stays. -/
def lower (text : Text) : Text := text.map Char.toLower

/-- Whether two texts differ at most in the case of ASCII letters. -/
def sameIgnoringCase (a b : Text) : Bool := lower a == lower b

/-! ### Order -/

/-- `a` comes before `b`: at the first difference by code point, a start before its
continuations. -/
def before : Text → Text → Bool
  | _, [] => false
  | [], _ :: _ => true
  | a :: s, b :: t => if a = b then before s t else a.toNat < b.toNat

/-- Put a text into its place of a strictly sorted list; a text already there is not repeated. -/
def insertSorted (text : Text) : List Text → List Text
  | [] => [text]
  | other :: sorted =>
    if text = other then other :: sorted
    else if before text other then text :: other :: sorted
    else other :: insertSorted text sorted

/-- The distinct texts of a list, sorted by code point. -/
def sortedDistinct (texts : List Text) : List Text := texts.foldr insertSorted []

/-- How many bytes a text takes. -/
def byteLength (text : Text) : Nat := text.foldl (fun size c => size + c.utf8Size) 0

/-- The decimal digits of a number. -/
def ofNat (n : Nat) : Text := Nat.toDigits 10 n

end Text

end IconComponents
