/-
**Names in title case.**

Words are cut from the letters and digits of a text, so a name in title case has no others, and it
has all of them. The capitals that it gets are where it is cut again, so it is in title case for good.
All of this holds however the text is spelled in ASCII first.

* `lower_titleCaseBy` — the letters and digits of a name, without regard to case;
* `IsTitled`, `IsTitled.capitalised` — **a text in which each word starts with a capital** or with a
  digit is in title case already;
* `isTitled_titleCaseBy` — a name in title case is one.
-/

import IconComponents.Proofs.Name.Words

namespace IconComponents.Name

variable {text word : Text} {list : List Text} {c : Char} {spell : Text → Text}

/-! ### Letters and digits -/

theorem isWord_of_mem_wordsBy (member : word ∈ wordsBy spell text) : IsWord word :=
  isWord_of_mem_cutWords member

theorem isAlphanum_toUpper (solid : c.isAlphanum = true) : c.toUpper.isAlphanum = true :=
  Text.of_isAlphanum (P := fun c => c.toUpper.isAlphanum = true) (by decide +kernel) solid

theorem isAlphanum_of_mem_capitalise (solid : ∀ c ∈ word, c.isAlphanum = true)
    (member : c ∈ capitalise word) : c.isAlphanum = true := by
  cases word with
  | nil => cases member
  | cons first rest =>
    rw [List.forall_mem_cons] at solid
    rcases List.mem_cons.mp member with rfl | member
    · exact isAlphanum_toUpper solid.1
    · exact solid.2 c member

/-- **A name in title case is made of letters and digits.** -/
theorem isAlphanum_of_mem_titleCaseBy (member : c ∈ titleCaseBy spell text) :
    c.isAlphanum = true := by
  obtain ⟨word, found, member⟩ := List.mem_flatMap.mp member
  exact isAlphanum_of_mem_capitalise (isWord_of_mem_wordsBy found).solid member

theorem lower_capitalise (word : Text) : Text.lower (capitalise word) = Text.lower word := by
  cases word with
  | nil => rfl
  | cons first rest => exact congrArg (· :: Text.lower rest) (Text.toLower_toUpper first)

theorem lower_flatMap_capitalise (list : List Text) :
    Text.lower (list.flatMap capitalise) = Text.lower list.flatten := by
  induction list with
  | nil => rfl
  | cons word list ih =>
    simp only [Text.lower] at ih ⊢
    rw [List.flatMap_cons, List.flatten_cons, List.map_append, List.map_append, ih]
    exact congrArg (· ++ _) (lower_capitalise word)

/-- **The letters and digits of a name in title case** are those of the text, without regard to
case. -/
theorem lower_titleCaseBy (spell : Text → Text) (text : Text) :
    Text.lower (titleCaseBy spell text) = Text.lower ((spell text).filter Char.isAlphanum) := by
  rw [← (isCut_cutWords (spell text)).flatten]
  exact lower_flatMap_capitalise _

/-! ### Capitals -/

theorem of_isLower (small : c.isLower = true) : c.isUpper = false ∧ c.isDigit = false := by
  have letter : c.isAlpha = true := Bool.or_eq_true_iff.mpr (Or.inr small)
  have solid : c.isAlphanum = true := Bool.or_eq_true_iff.mpr (Or.inl letter)
  exact @Text.of_isAlphanum
    (fun c => c.isLower = true → c.isUpper = false ∧ c.isDigit = false) c (by decide +kernel) solid
    small

/-- A small letter goes on with a word: what stands before it is no digit. -/
def GoesOn (left right : Char) : Prop := right.isLower = true → left.isDigit = false

theorem goesOn_of_joined {left right : Char} (joined : isBoundary left right = false) :
    GoesOn left right := fun small => by
  simp only [isBoundary, Bool.or_eq_false_iff, bne_eq_false_iff_eq] at joined
  rw [joined.2, (of_isLower small).2]

theorem not_isLower_of_isBoundary {left right : Char} (goesOn : GoesOn left right)
    (boundary : isBoundary left right = true) : right.isLower = false := by
  refine Bool.not_eq_true _ ▸ fun small => ?_
  obtain ⟨notUpper, notDigit⟩ := of_isLower small
  rw [isBoundary, notUpper, notDigit, goesOn small, Bool.and_false] at boundary
  cases boundary

/-- Letters and digits in which no word starts with a small letter. -/
structure IsTitled (text : Text) : Prop where
  solid : ∀ c ∈ text, c.isAlphanum = true
  first : ∀ c ∈ text.head?, c.isLower = false
  goesOn : text.IsChain GoesOn

theorem isTitled_nil : IsTitled [] :=
  ⟨fun _ member => absurd member List.not_mem_nil, fun _ first => absurd first (by simp),
    List.isChain_nil⟩

theorem isTitled_capitalise (isWord : IsWord word) : IsTitled (capitalise word) := by
  refine ⟨fun c => isAlphanum_of_mem_capitalise isWord.solid, ?_, ?_⟩
  · obtain ⟨c, rest, rfl⟩ := List.exists_cons_of_ne_nil isWord.some
    rintro _ ⟨⟩
    exact Text.of_isAlphanum (P := fun c => c.toUpper.isLower = false) (by decide +kernel)
      (isWord.solid c List.mem_cons_self)
  · have goesOn : word.IsChain GoesOn := isWord.steady.imp fun _ _ => goesOn_of_joined
    match word, goesOn with
    | [], _ => exact List.isChain_nil
    | [c], _ => exact List.isChain_singleton _
    | c :: next :: rest, goesOn =>
      rw [List.isChain_cons_cons] at goesOn
      have digit : c.toUpper.isDigit = c.isDigit :=
        Text.of_isAlphanum (P := fun c => c.toUpper.isDigit = c.isDigit) (by decide +kernel)
          (isWord.solid c List.mem_cons_self)
      exact List.isChain_cons_cons.mpr ⟨fun small => digit.trans (goesOn.1 small), goesOn.2⟩

/-- Titled texts one after the other are titled. -/
theorem IsTitled.append {text behind : Text} (front : IsTitled text) (back : IsTitled behind) :
    IsTitled (text ++ behind) where
  solid c member := (List.mem_append.mp member).elim (front.solid c) (back.solid c)
  first := by
    cases text with
    | nil => exact back.first
    | cons c text => exact front.first
  goesOn := List.isChain_append.mpr ⟨front.goesOn, back.goesOn, fun _ _ c first small =>
    absurd small (by rw [back.first c first]; exact Bool.false_ne_true)⟩

/-- **A name in title case has capitals where it is cut.** -/
theorem isTitled_titleCaseBy (spell : Text → Text) (text : Text) :
    IsTitled (titleCaseBy spell text) := by
  have areWords : ∀ word ∈ wordsBy spell text, IsWord word := fun _ => isWord_of_mem_wordsBy
  unfold titleCaseBy
  generalize wordsBy spell text = list at areWords
  induction list with
  | nil => exact isTitled_nil
  | cons word list ih =>
    rw [List.forall_mem_cons] at areWords
    exact (isTitled_capitalise areWords.1).append (ih areWords.2)

theorem capitalise_eq_self (first : ∀ c ∈ word.head?, c.isLower = false) :
    capitalise word = word := by
  cases word with
  | nil => rfl
  | cons c rest => exact congrArg (· :: rest) (Text.toUpper_eq_self (first c rfl))

/-- What stands behind a word of a text in title case starts with a capital, too. -/
theorem IsTitled.behind {behind : Text} (titled : IsTitled (word ++ behind)) (some : word ≠ [])
    (ends : EndsBefore word behind) : IsTitled behind := by
  obtain ⟨-, goesOn, joint⟩ := List.isChain_append.mp titled.goesOn
  refine ⟨fun c member => titled.solid c (List.mem_append_right word member), ?_, goesOn⟩
  intro c first
  have last := List.getLast_mem_getLast? some
  have solid := titled.solid c (List.mem_append_right word (List.mem_of_mem_head? first))
  exact not_isLower_of_isBoundary (joint _ last c first) (ends _ last c first solid)

/-- **A text in title case** has its words in title case. -/
theorem IsTitled.capitalised (titled : IsTitled text) :
    (cutWords text).flatMap capitalise = text := by
  have cut := isCut_cutWords text
  generalize cutWords text = list at cut
  induction cut with
  | done => rfl
  | @apart c text _ apart _ _ =>
    have solid := titled.solid c List.mem_cons_self
    rw [apart] at solid
    cases solid
  | @word word behind list isWord ends _ ih =>
    have first : ∀ c ∈ word.head?, c.isLower = false := fun c isFirst =>
      titled.first c (by rw [List.head?_append_of_ne_nil _ isWord.some]; exact isFirst)
    rw [List.flatMap_cons, ih (titled.behind isWord.some ends), capitalise_eq_self first]

end IconComponents.Name
