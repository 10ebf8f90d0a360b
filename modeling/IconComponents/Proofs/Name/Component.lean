/-
**What a component name is made of.**

A component name has the letters and digits of its file's stem between the affixes, however the stem
is spelled in ASCII. With affixes that may stand in an identifier, only a digit at the start keeps it
from being one.

* `IsStem` — a file name without one `.svg` at its end;
* `IsNameOf` — the letters and digits of a component name;
* `isIdentifier_eq_false_iff` — what keeps a name from being an identifier;
* `ofPath_letters` — **every component name has the letters and digits of its stem.**
-/

import IconComponents.Name.Component
import IconComponents.Proofs.Name.TitleCase

namespace IconComponents.Name

variable {fileName name leading trailing path : Text} {c : Char}

/-! ### Stems -/

/-- A file name without one `.svg` at its end, in any letter case; the whole name if it does not end
so or if nothing else is left. -/
inductive IsStem (fileName : Text) : Text → Prop
  | cut {stem ending : Text} (split : fileName = stem ++ ending)
    (isEnding : Text.lower ending = ".svg".toList) (some : stem ≠ []) : IsStem fileName stem
  | whole (alone : ∀ stem ending, fileName = stem ++ ending →
      Text.lower ending = ".svg".toList → stem = []) : IsStem fileName fileName

theorem sameIgnoringCase_ending (ending : Text) :
    Text.sameIgnoringCase ending ".svg".toList = true ↔ Text.lower ending = ".svg".toList :=
  beq_iff_eq

/-- A stem is what is left of a file name without its ending. -/
theorem isStem_stem (fileName : Text) : IsStem fileName (stem fileName) := by
  unfold stem
  simp only [Bool.and_eq_true, decide_eq_true_eq, sameIgnoringCase_ending]
  split
  · next ends =>
    refine .cut (List.take_append_drop _ _).symm ends.2 fun none => ?_
    have length := congrArg List.length none
    rw [List.length_take, List.length_nil] at length
    omega
  · next otherwise =>
    refine .whole fun stem ending split isEnding => ?_
    have four : ending.length = 4 := by
      have same := congrArg List.length isEnding
      rwa [Text.lower, List.length_map] at same
    have front : fileName.length - 4 = stem.length := by
      rw [split, List.length_append, four, Nat.add_sub_cancel]
    by_contra some
    refine otherwise ⟨front ▸ List.length_pos_iff.mpr some, ?_⟩
    rw [front, split, List.drop_left, isEnding]

/-! ### Identifiers -/

theorem isIdentifierPart_of_isAlphanum (solid : c.isAlphanum = true) :
    isIdentifierPart c = true := by
  simp [isIdentifierPart, solid]

/-- Of the characters of identifiers only the digits may not be the first. -/
theorem isIdentifierStart_eq_false_iff (part : isIdentifierPart c = true) :
    isIdentifierStart c = false ↔ c.isDigit = true := by
  simp only [isIdentifierPart, Bool.or_eq_true, decide_eq_true_eq] at part
  rcases part with (solid | rfl) | rfl
  · exact Text.of_isAlphanum
      (P := fun c => isIdentifierStart c = false ↔ c.isDigit = true) (by decide +kernel) solid
  · decide
  · decide

/-- **What keeps a name from being an identifier.** -/
theorem isIdentifier_eq_false_iff (parts : ∀ c ∈ name, isIdentifierPart c = true) :
    isIdentifier name = false ↔ name = [] ∨ ∃ digit rest, name = digit :: rest ∧
      digit.isDigit = true := by
  cases name with
  | nil => simp [isIdentifier]
  | cons c rest =>
    rw [List.forall_mem_cons] at parts
    have others : rest.all isIdentifierPart = true := List.all_eq_true.mpr parts.2
    rw [isIdentifier, others, Bool.and_true, isIdentifierStart_eq_false_iff parts.1]
    simp

/-! ### Component names -/

/-- A name with the letters and digits of a file's stem between two affixes. If the affixes have
characters of identifiers only, the name is an identifier unless it is empty or starts with a
digit. -/
structure IsNameOf (spell : Text → Text) (path leading trailing name : Text) : Prop where
  letters : ∃ stem title, IsStem ((Path.fileName? path).getD []) stem ∧
    name = leading ++ title ++ trailing ∧ (∀ c ∈ title, c.isAlphanum = true) ∧
    Text.lower title = Text.lower ((spell stem).filter Char.isAlphanum)
  identifier : (∀ c ∈ leading ++ trailing, isIdentifierPart c = true) →
    (isIdentifier name = false ↔
      name = [] ∨ ∃ digit rest, name = digit :: rest ∧ digit.isDigit = true)

/-- The name of a path is made of its words. -/
theorem isNameOf_ofPathBy (spell : Text → Text) (path leading trailing : Text) :
    IsNameOf spell path leading trailing (ofPathBy spell path leading trailing) where
  letters := ⟨_, _, isStem_stem _, rfl, fun _ => isAlphanum_of_mem_titleCaseBy,
    lower_titleCaseBy spell _⟩
  identifier affixes := isIdentifier_eq_false_iff fun c member => by
    rw [ofPathBy, List.append_assoc] at member
    rcases List.mem_append.mp member with first | rest
    · exact affixes c (List.mem_append_left _ first)
    · rcases List.mem_append.mp rest with inside | last
      · exact isIdentifierPart_of_isAlphanum (isAlphanum_of_mem_titleCaseBy inside)
      · exact affixes c (List.mem_append_right _ last)

/-- **Every component name has the letters and digits of its stem**, and so it would with every other
spelling in ASCII. -/
theorem ofPath_letters :
    (∀ path leading trailing,
        IsNameOf Text.transliterate path leading trailing (ofPath path leading trailing)) ∧
      ∀ spell path leading trailing,
        IsNameOf spell path leading trailing (ofPathBy spell path leading trailing) :=
  ⟨isNameOf_ofPathBy Text.transliterate, isNameOf_ofPathBy⟩

/-- A name in which an accent, a hyphen and an ending in capitals are left out, and one that starts
with a digit. -/
theorem cafe_letters :
    ofPath "icons/caf\u00e9-24h.SVG".toList "Icon".toList [] = "IconCafe24H".toList ∧
      IsNameOf Text.transliterate "icons/caf\u00e9-24h.SVG".toList "Icon".toList []
        "IconCafe24H".toList ∧
      isIdentifier "IconCafe24H".toList = true ∧
      IsNameOf Text.transliterate "24h.svg".toList [] [] "24H".toList ∧
      isIdentifier "24H".toList = false := by
  have cafe : ofPath "icons/caf\u00e9-24h.SVG".toList "Icon".toList [] = "IconCafe24H".toList := by
    decide +kernel
  have digits : ofPath "24h.svg".toList [] [] = "24H".toList := by decide +kernel
  exact ⟨cafe, cafe ▸ ofPath_letters.1 _ _ _, by decide, digits ▸ ofPath_letters.1 _ _ _,
    by decide⟩

end IconComponents.Name
