/-
**Tags in the literals of a component.**

The literals of a component stand in front of its root tag. A default opens a tag exactly if one of
the icon's colours does, and a type literal opens none.

* `opensIn_escape`, `opensIn_quote`, `opensIn_quoteAll` — the escapes neither hide a tag nor make
  one;
* `opensIn_default` — the default of a colour;
* `bracket_not_mem_typeLiteral` — the type of the colours.
-/

import IconComponents.Component.Properties
import IconComponents.Proofs.Markup.SvgTag

namespace IconComponents

open SvgTag

/-! ### Escapes -/

/-- A character is written as it is, or it is no part of a word and its escape holds no bracket. -/
theorem escape_eq_or (c : Char) : Text.escape c = [c] ∨
    Char.isWord c = false ∧ ∃ tail, Text.escape c = '\\' :: tail ∧ '<' ∉ tail := by
  have control : ∀ code < 32, Char.isWord (Char.ofNat code) = false ∧
      '<' ∉ (Text.unicodeEscape code).tail := by
    decide +kernel
  unfold Text.escape
  repeat' split
  all_goals first
    | exact Or.inl rfl
    | next same => exact Or.inr ⟨by rw [same]; decide, _, rfl, by decide⟩
    | next small =>
      obtain ⟨notWord, free⟩ := control c.toNat small
      rw [Char.ofNat_toNat] at notWord
      exact Or.inr ⟨notWord, _, rfl, free⟩

/-- Escapes leave the ends of words where they are. -/
theorem wordEnds_escape (value : Text) :
    Text.wordEnds (value.flatMap Text.escape) = Text.wordEnds value := by
  cases value with
  | nil => rfl
  | cons c value =>
    rw [List.flatMap_cons]
    rcases escape_eq_or c with same | ⟨notWord, tail, escaped, -⟩
    · rw [same]
      rfl
    · rw [escaped, Text.wordEnds, notWord]
      rfl

/-- What is written without a backslash at the start of an escaped text was there before. -/
theorem exists_append_of_escape {needle value after : Text} (plain : '\\' ∉ needle)
    (starts : value.flatMap Text.escape = needle ++ after) :
    ∃ rest, value = needle ++ rest ∧ after = rest.flatMap Text.escape := by
  induction needle generalizing value with
  | nil => exact ⟨value, rfl, starts.symm⟩
  | cons n needle ih =>
    rw [List.mem_cons, not_or] at plain
    cases value with
    | nil => cases starts
    | cons c value =>
      rw [List.flatMap_cons] at starts
      rcases escape_eq_or c with same | ⟨-, tail, escaped, -⟩
      · rw [same] at starts
        obtain ⟨rfl, later⟩ := List.cons.inj starts
        obtain ⟨rest, rfl, afterEq⟩ := ih plain.2 later
        exact ⟨rest, rfl, afterEq⟩
      · rw [escaped] at starts
        exact absurd (List.cons.inj starts).1 plain.1

/-- **The escapes neither hide a tag nor make one.** -/
theorem opensIn_escape (value : Text) : OpensIn (value.flatMap Text.escape) ↔ OpensIn value := by
  induction value with
  | nil => rfl
  | cons c value ih =>
    rw [List.flatMap_cons]
    by_cases bracket : c = '<'
    · subst bracket
      have named : (∃ after, value.flatMap Text.escape = "svg".toList ++ after ∧
          Text.wordEnds after = true) ↔
          ∃ after, value = "svg".toList ++ after ∧ Text.wordEnds after = true := by
        constructor
        · rintro ⟨after, starts, ends⟩
          obtain ⟨rest, rfl, rfl⟩ := exists_append_of_escape (by decide) starts
          exact ⟨rest, rfl, wordEnds_escape rest ▸ ends⟩
        · rintro ⟨rest, rfl, ends⟩
          refine ⟨rest.flatMap Text.escape, ?_, (wordEnds_escape rest).trans ends⟩
          rw [List.flatMap_append]
          rfl
      show OpensIn ('<' :: value.flatMap Text.escape) ↔ _
      rw [opensIn_bracket, opensIn_bracket, named, ih]
    · have free : '<' ∉ Text.escape c := by
        rcases escape_eq_or c with same | ⟨-, tail, escaped, free⟩
        · rw [same, List.mem_singleton]
          exact Ne.symm bracket
        · rw [escaped, List.mem_cons, not_or]
          exact ⟨by decide, free⟩
      rw [opensIn_of_free free, opensIn_cons bracket, ih]

/-! ### Literals -/

/-- A quoted text opens a tag exactly if the text does. -/
theorem opensIn_quote (value : Text) : OpensIn (Text.quote value) ↔ OpensIn value := by
  have quote : ¬ OpensIn ['"'] := not_opensIn_of_length (by decide)
  rw [Text.quote, opensIn_append rfl, opensIn_cons (by decide), opensIn_escape, or_iff_left quote]

/-- Texts with commas between them open a tag exactly if one of them does. -/
theorem opensIn_joinWith (parts : List Text) :
    OpensIn (Text.joinWith [','] parts) ↔ ∃ part ∈ parts, OpensIn part := by
  unfold Text.joinWith
  induction parts with
  | nil => exact iff_of_false (not_opensIn_of_length (by decide)) (by simp)
  | cons part parts ih =>
    cases parts with
    | nil => simp
    | cons next parts =>
      rw [List.intercalate_cons_cons, List.append_assoc, opensIn_append rfl, List.singleton_append,
        opensIn_cons (by decide), ih, ← List.exists_mem_cons_iff]

theorem opensIn_quoteAll (values : List Text) :
    OpensIn (Text.quoteAll values) ↔ ∃ value ∈ values, OpensIn value := by
  have bracket : ¬ OpensIn [']'] := not_opensIn_of_length (by decide)
  rw [Text.quoteAll, opensIn_append rfl, opensIn_cons (by decide), opensIn_joinWith,
    or_iff_left bracket]
  simp only [List.mem_map, exists_exists_and_eq_and, opensIn_quote]

/-- **A default opens a tag** exactly if a colour does. -/
theorem opensIn_default {set : Occurrences} {literal : Text}
    (default : set.default? = some literal) :
    OpensIn literal ↔ ∃ value ∈ set.values, OpensIn value := by
  rw [Occurrences.default?] at default
  split at default
  · cases default
  · next value values =>
    cases default
    rw [opensIn_quote, values]
    simp
  · cases default
    exact opensIn_quoteAll _

/-- The declared type holds no bracket. -/
theorem bracket_not_mem_typeLiteral (fill stroke : Occurrences) :
    '<' ∉ (Properties.ofOccurrences fill stroke).typeLiteral := by
  simp only [Properties.ofOccurrences, List.filterMap_cons, List.filterMap_nil,
    Occurrences.field?, Occurrences.typeName]
  generalize fill.isEmpty = noFill, fill.isMultiple = fills, fill.paint = first,
    stroke.isEmpty = noStroke, stroke.isMultiple = strokes, stroke.paint = second
  cases first <;> cases second <;> revert noFill fills noStroke strokes <;> decide

end IconComponents
