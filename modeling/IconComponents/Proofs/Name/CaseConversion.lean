/-
**Case conversions settle at once.**

A name that was converted is converted into itself, although it is cut anew: in title case the words
have lost what stood between them, and with hyphens they have lost their capitals. Nothing is needed
of the spelling in ASCII but that it leaves ASCII alone.

* `IsKebab` — rows of small letters and rows of digits with single hyphens between them;
* `IsWord.lower`, `isCut_joinWith` — such a text is cut at its hyphens;
* `caseConversions_settle` — **title case and hyphens settle at once**.
-/

import IconComponents.Proofs.Name.Kebab
import IconComponents.Proofs.Name.TitleCase

namespace IconComponents.Name

variable {text word : Text} {list : List Text} {c : Char} {spell : Text → Text}

/-! ### Small letters -/

/-- A row of small letters or a row of digits, not empty. -/
def IsGroup (group : Text) : Prop :=
  group ≠ [] ∧ ((∀ c ∈ group, c.isLower = true) ∨ ∀ c ∈ group, c.isDigit = true)

/-- Nothing, or groups with single hyphens between them. -/
def IsKebab (text : Text) : Prop :=
  ∃ groups, (∀ group ∈ groups, IsGroup group) ∧ text = Text.joinWith ['-'] groups

/-- What becomes of a letter or digit in small letters. -/
structure LowersTo (c small : Char) : Prop where
  solid : small.isAlphanum = true
  notUpper : small.isUpper = false
  digit : small.isDigit = c.isDigit
  again : small.toLower = small

instance (c small : Char) : Decidable (LowersTo c small) :=
  decidable_of_iff (small.isAlphanum = true ∧ small.isUpper = false ∧
      small.isDigit = c.isDigit ∧ small.toLower = small)
    ⟨fun ⟨solid, notUpper, digit, again⟩ => ⟨solid, notUpper, digit, again⟩,
      fun lowers => ⟨lowers.solid, lowers.notUpper, lowers.digit, lowers.again⟩⟩

theorem lowersTo_toLower (solid : c.isAlphanum = true) : LowersTo c c.toLower :=
  Text.of_isAlphanum (P := fun c => LowersTo c c.toLower) (by decide +kernel) solid

/-- A word in small letters is a word. -/
theorem IsWord.lower (isWord : IsWord word) : IsWord (Text.lower word) := by
  induction word with
  | nil => exact absurd rfl isWord.some
  | cons c word ih =>
    have first := lowersTo_toLower (isWord.solid c List.mem_cons_self)
    cases word with
    | nil => exact isWord_singleton first.solid
    | cons next word =>
      obtain ⟨-, joined, rest⟩ := isWord_cons_cons_iff.mp isWord
      have second := lowersTo_toLower (rest.solid next List.mem_cons_self)
      refine isWord_cons_cons_iff.mpr ⟨first.solid, ?_, ih rest⟩
      simp only [isBoundary, Bool.or_eq_false_iff, bne_eq_false_iff_eq] at joined ⊢
      exact ⟨by rw [second.notUpper, Bool.and_false],
        first.digit.trans (joined.2.trans second.digit.symm)⟩

theorem IsWord.lower_lower (isWord : IsWord word) :
    Text.lower (Text.lower word) = Text.lower word := by
  unfold Text.lower
  rw [List.map_map]
  exact List.map_congr_left fun c member => (lowersTo_toLower (isWord.solid c member)).again

theorem IsWord.isGroup_lower (isWord : IsWord word) : IsGroup (Text.lower word) := by
  have lowered := isWord.lower
  refine ⟨lowered.some, lowered.digits_or_letters.symm.imp (fun letters => ?_) id⟩
  intro small member
  obtain ⟨c, among, rfl⟩ := List.mem_map.mp member
  have lowers := lowersTo_toLower (isWord.solid c among)
  rcases Bool.or_eq_true_iff.mp lowers.solid with letter | digit
  · exact (Bool.or_eq_true_iff.mp letter).resolve_left (by simp [lowers.notUpper])
  · exact absurd digit (by simp [letters _ member])

/-! ### Hyphens -/

/-- **Words with hyphens between them** are cut at the hyphens. -/
theorem isCut_joinWith (areWords : ∀ word ∈ list, IsWord word) :
    IsCut (Text.joinWith ['-'] list) list := by
  unfold Text.joinWith
  induction list with
  | nil => exact .done
  | cons word list ih =>
    rw [List.forall_mem_cons] at areWords
    cases list with
    | nil =>
      rw [List.intercalate_singleton]
      have alone := IsCut.word areWords.1 (endsBefore_of_not_alphanum (by simp)) .done
      rwa [List.append_nil] at alone
    | cons next list =>
      rw [List.intercalate_cons_cons, List.append_assoc, List.singleton_append]
      refine .word areWords.1 (endsBefore_of_not_alphanum ?_) (.apart rfl (ih areWords.2))
      rintro _ ⟨⟩
      rfl

theorem mem_joinWith_hyphen (member : c ∈ Text.joinWith ['-'] list) :
    c = '-' ∨ ∃ word ∈ list, c ∈ word := by
  cases list with
  | nil => cases member
  | cons first list =>
    have within := List.mem_append_left ['-'] member
    rw [joinWith_append_hyphen (List.cons_ne_nil _ _)] at within
    obtain ⟨word, among, inside⟩ := List.mem_flatMap.mp within
    rcases List.mem_append.mp inside with inside | hyphen
    · exact Or.inr ⟨word, among, inside⟩
    · exact Or.inl (List.mem_singleton.mp hyphen)

/-! ### Converting again -/

/-- A spelling leaves ASCII alone. -/
def KeepsAscii (spell : Text → Text) : Prop :=
  ∀ text, (∀ c ∈ text, c.toNat < 0x80) → spell text = text

theorem ascii_of_isAlphanum (solid : c.isAlphanum = true) : c.toNat < 0x80 := by
  have codes := Text.codes_of_isAlphanum solid
  omega

/-- The words of a text with hyphens between them are the words it was made of, whatever the
spelling does to other texts. -/
theorem wordsBy_kebabCaseBy (keeps : KeepsAscii spell) (text : Text) :
    wordsBy spell (kebabCaseBy spell text) = (wordsBy spell text).map Text.lower := by
  have lowered : ∀ word ∈ (wordsBy spell text).map Text.lower, IsWord word :=
    List.forall_mem_map.mpr fun word member => (isWord_of_mem_wordsBy member).lower
  have kept : spell (kebabCaseBy spell text) = kebabCaseBy spell text := by
    refine keeps _ fun c member => ?_
    rcases mem_joinWith_hyphen member with rfl | ⟨word, among, inside⟩
    · decide
    · exact ascii_of_isAlphanum ((lowered word among).solid c inside)
  rw [wordsBy, kept]
  exact (isCut_joinWith lowered).eq_cutWords.symm

/-- Two case conversions settle: what they make they leave as it is, and what the second makes has
hyphens between groups. -/
structure Settle (titled hyphenated : Text → Text) : Prop where
  title : ∀ text, titled (titled text) = titled text
  kebab : ∀ text, hyphenated (hyphenated text) = hyphenated text
  shape : ∀ text, IsKebab (hyphenated text)

/-- Names settle if the spelling keeps ASCII. -/
theorem settle_by (keeps : KeepsAscii spell) :
    Settle (titleCaseBy spell) (kebabCaseBy spell) where
  title text := by
    have kept := keeps (titleCaseBy spell text) fun c member =>
      ascii_of_isAlphanum (isAlphanum_of_mem_titleCaseBy member)
    rw [titleCaseBy, wordsBy, kept]
    exact (isTitled_titleCaseBy spell text).capitalised
  kebab text := by
    have same : ((wordsBy spell text).map Text.lower).map Text.lower =
        (wordsBy spell text).map Text.lower := by
      rw [List.map_map]
      exact List.map_congr_left fun word member => (isWord_of_mem_wordsBy member).lower_lower
    rw [kebabCaseBy, wordsBy_kebabCaseBy keeps, same]
    rfl
  shape text := ⟨_, List.forall_mem_map.mpr fun word member =>
    (isWord_of_mem_wordsBy member).isGroup_lower, rfl⟩

/-- **Title case and hyphens settle at once**, and so they do with every other spelling that leaves
ASCII alone. -/
theorem caseConversions_settle :
    Settle titleCase kebabCase ∧
      ∀ spell, KeepsAscii spell → Settle (titleCaseBy spell) (kebabCaseBy spell) :=
  ⟨settle_by fun _ => Text.transliterate_of_ascii, fun _ => settle_by⟩

/-- A text with capitals, digits and other characters on its borders. -/
theorem mixedCase_settles :
    KeepsAscii Text.transliterate ∧
      titleCaseBy Text.transliterate "--fooBAR 2x".toList = "FooBAR2X".toList ∧
      titleCaseBy Text.transliterate "FooBAR2X".toList = "FooBAR2X".toList ∧
      kebabCaseBy Text.transliterate "--fooBAR 2x".toList = "foo-bar-2-x".toList ∧
      kebabCaseBy Text.transliterate "foo-bar-2-x".toList = "foo-bar-2-x".toList := by
  have keeps : KeepsAscii Text.transliterate := fun _ => Text.transliterate_of_ascii
  have settle := caseConversions_settle.2 Text.transliterate keeps
  have title : titleCaseBy Text.transliterate "--fooBAR 2x".toList = "FooBAR2X".toList := by
    decide +kernel
  have kebab : kebabCaseBy Text.transliterate "--fooBAR 2x".toList = "foo-bar-2-x".toList := by
    decide +kernel
  exact ⟨keeps, title, title ▸ settle.title "--fooBAR 2x".toList, kebab,
    kebab ▸ settle.kebab "--fooBAR 2x".toList⟩

end IconComponents.Name
