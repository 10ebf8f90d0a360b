/-
**Stretches of letters and digits in a text.**

A stretch is a row of positions with letters and digits on them and no step that starts a new word. A
word stands on every stretch, and where a word stands is a stretch. A stretch is maximal if none
reaches across its two borders, and then what stands on it is a word that ends there.

* `Parts` — the steps that start a new word, one by one; `isBoundary` tests for them at once;
* `IsStretch`, `wordAt` — a stretch of a text, and what stands on it;
* `IsStretch.isWord`, `isStretch_of_isWord` — **stretches are where words stand**;
* `IsBorder`, `IsStretch.maximal`, `parts_of_maximal` — what is on both sides of a maximal stretch.
-/

import Mathlib.Order.Interval.Basic
import IconComponents.Proofs.Name.Words

namespace IconComponents.Name

variable {text word behind : Text} {place : NonemptyInterval ℕ} {c left right : Char} {start i : ℕ}

/-! ### Stretches -/

/-- A new word starts between two characters: a small letter and a capital, or a letter and a digit
in either order. -/
inductive Parts (left right : Char) : Prop
  | capital (small : left.isLower = true) (capital : right.isUpper = true)
  | digit (letter : left.isAlpha = true) (digit : right.isDigit = true)
  | letter (digit : left.isDigit = true) (letter : right.isAlpha = true)

/-- Letters and digits on a place of a text, with no two neighbours between which a word starts. -/
structure IsStretch (text : Text) (place : NonemptyInterval ℕ) : Prop where
  solid : ∀ i ∈ place, ∃ c, text[i]? = some c ∧ c.isAlphanum = true
  steady : ∀ i ∈ place, i + 1 ∈ place → ∀ left right, text[i]? = some left →
    text[i + 1]? = some right → ¬ Parts left right

theorem IsStretch.first (stretch : IsStretch text place) :
    ∃ c, text[place.fst]? = some c ∧ c.isAlphanum = true :=
  stretch.solid place.fst ⟨le_rfl, place.fst_le_snd⟩

theorem IsStretch.last (stretch : IsStretch text place) :
    ∃ c, text[place.snd]? = some c ∧ c.isAlphanum = true :=
  stretch.solid place.snd ⟨place.fst_le_snd, le_rfl⟩

theorem IsStretch.inside (stretch : IsStretch text place) : place.snd < text.length := by
  obtain ⟨_, found, -⟩ := stretch.last
  exact (List.getElem?_eq_some_iff.mp found).1

theorem isAlpha_eq_not_isDigit (solid : c.isAlphanum = true) : c.isAlpha = !c.isDigit :=
  Text.of_isAlphanum (P := fun c => c.isAlpha = !c.isDigit) (by decide +kernel) solid

/-- **A boundary is a step that starts a new word**, and there are no others. -/
theorem isBoundary_iff_parts (first : left.isAlphanum = true) (second : right.isAlphanum = true) :
    isBoundary left right = true ↔ Parts left right := by
  have ofLeft := isAlpha_eq_not_isDigit first
  have ofRight := isAlpha_eq_not_isDigit second
  simp only [isBoundary, Bool.or_eq_true, Bool.and_eq_true, bne_iff_ne]
  constructor
  · rintro (⟨small, capital⟩ | differ)
    · exact .capital small capital
    · cases digit : left.isDigit with
      | true => exact .letter digit (by rw [ofRight]; simpa [digit] using differ)
      | false => exact .digit (by rw [ofLeft, digit]; rfl) (by simpa [digit] using differ)
  · rintro (⟨small, capital⟩ | ⟨letter, digit⟩ | ⟨digit, letter⟩)
    · exact Or.inl ⟨small, capital⟩
    · exact Or.inr (by simpa [digit, ofLeft] using letter)
    · exact Or.inr (by simpa [digit, ofRight] using letter)

/-! ### What stands on a place -/

/-- What stands on a place of a text. -/
def wordAt (text : Text) (place : NonemptyInterval ℕ) : Text :=
  text.extract place.fst (place.snd + 1)

/-- The characters of a word are those of its place. -/
theorem getElem?_wordAt (text : Text) (place : NonemptyInterval ℕ) (i : ℕ) :
    (wordAt text place)[i]? = if place.fst + i ≤ place.snd then text[place.fst + i]? else none := by
  rw [wordAt, List.extract_eq_take_drop, List.getElem?_take, List.getElem?_drop]
  exact if_congr (by omega) rfl rfl

theorem of_getElem?_wordAt (found : (wordAt text place)[i]? = some c) :
    place.fst + i ∈ place ∧ text[place.fst + i]? = some c := by
  rw [getElem?_wordAt] at found
  split at found
  · next inside => exact ⟨⟨Nat.le_add_right _ i, inside⟩, found⟩
  · cases found

theorem getElem?_wordAt_of_mem (member : i ∈ place) :
    (wordAt text place)[i - place.fst]? = text[i]? := by
  obtain ⟨above, below⟩ := member
  rw [getElem?_wordAt, Nat.add_sub_cancel' above, if_pos below]

/-- **A word stands on every stretch.** -/
theorem IsStretch.isWord (stretch : IsStretch text place) : IsWord (wordAt text place) where
  some := by
    intro none
    obtain ⟨_, found, -⟩ := stretch.first
    rw [← getElem?_wordAt_of_mem ⟨le_rfl, place.fst_le_snd⟩, none] at found
    cases found
  solid c member := by
    obtain ⟨i, found⟩ := List.mem_iff_getElem?.mp member
    obtain ⟨inside, found⟩ := of_getElem?_wordAt found
    obtain ⟨d, same, solid⟩ := stretch.solid _ inside
    rwa [Option.some.inj (found.symm.trans same)]
  steady := by
    refine List.isChain_iff_getElem.mpr fun i bound => ?_
    have before : i < (wordAt text place).length := Nat.lt_of_succ_lt bound
    obtain ⟨first, foundLeft⟩ := of_getElem?_wordAt (List.getElem?_eq_getElem before)
    obtain ⟨second, foundRight⟩ := of_getElem?_wordAt (List.getElem?_eq_getElem bound)
    obtain ⟨_, sameLeft, solidLeft⟩ := stretch.solid _ first
    obtain ⟨_, sameRight, solidRight⟩ := stretch.solid _ second
    obtain rfl := Option.some.inj (foundLeft.symm.trans sameLeft)
    obtain rfl := Option.some.inj (foundRight.symm.trans sameRight)
    rw [← Bool.not_eq_true, isBoundary_iff_parts solidLeft solidRight]
    exact stretch.steady _ first second _ _ foundLeft foundRight

/-- **Where a word stands is a stretch.** -/
theorem isStretch_of_isWord (isWord : IsWord (wordAt text place))
    (inside : place.snd < text.length) : IsStretch text place where
  solid i member := by
    have bound : i < text.length := member.2.trans_lt inside
    have found : text[i]? = some text[i] := List.getElem?_eq_getElem bound
    have among := (getElem?_wordAt_of_mem member).trans found
    exact ⟨text[i], found, isWord.solid _ (List.mem_of_getElem? among)⟩
  steady := by
    intro i first second left right foundLeft foundRight parts
    rw [← getElem?_wordAt_of_mem first] at foundLeft
    rw [← getElem?_wordAt_of_mem second, Nat.sub_add_comm first.1] at foundRight
    obtain ⟨_, rfl⟩ := List.getElem?_eq_some_iff.mp foundLeft
    obtain ⟨bound, rfl⟩ := List.getElem?_eq_some_iff.mp foundRight
    have joined := List.isChain_iff_getElem.mp isWord.steady _ bound
    rw [← Bool.not_eq_true, isBoundary_iff_parts (isWord.solid _ (List.getElem_mem _))
      (isWord.solid _ (List.getElem_mem _))] at joined
    exact joined parts

theorem drop_fst (text : Text) (place : NonemptyInterval ℕ) :
    text.drop place.fst = wordAt text place ++ text.drop (place.snd + 1) := by
  have nonempty := place.fst_le_snd
  have behind : place.fst + (place.snd + 1 - place.fst) = place.snd + 1 := by omega
  rw [wordAt, List.extract_eq_take_drop, ← behind, Nat.add_sub_cancel_left, ← List.drop_drop,
    List.take_append_drop]

theorem length_wordAt (inside : place.snd < text.length) :
    (wordAt text place).length = place.snd - place.fst + 1 := by
  have nonempty := place.fst_le_snd
  rw [wordAt, List.extract_eq_take_drop, List.length_take, List.length_drop]
  omega

theorem getLast?_wordAt (inside : place.snd < text.length) :
    (wordAt text place).getLast? = text[place.snd]? := by
  rw [List.getLast?_eq_getElem?, length_wordAt inside, Nat.add_sub_cancel]
  exact getElem?_wordAt_of_mem ⟨place.fst_le_snd, le_rfl⟩

/-- What a text goes on with stands on a place of it. -/
theorem exists_place (some : word ≠ []) (shape : text.drop start = word ++ behind) :
    ∃ place, start = place.fst ∧ place.snd < text.length ∧ word = wordAt text place ∧
      behind = text.drop (place.snd + 1) := by
  obtain ⟨c, tail, rfl⟩ := List.exists_cons_of_ne_nil some
  obtain ⟨place, rfl, last⟩ : ∃ place : NonemptyInterval ℕ,
      place.fst = start ∧ place.snd = start + tail.length :=
    ⟨⟨(start, start + tail.length), Nat.le_add_right _ _⟩, rfl, rfl⟩
  have inside : place.snd < text.length := by
    have length := congrArg List.length shape
    rw [List.length_drop, List.length_append, List.length_cons] at length
    omega
  refine ⟨place, rfl, inside, List.append_inj (shape.symm.trans (drop_fst text place)) ?_⟩
  rw [length_wordAt inside, last, Nat.add_sub_cancel_left, List.length_cons]

/-- The word on a stretch ends where a new one starts behind it. -/
theorem IsStretch.endsBefore_iff (stretch : IsStretch text place) :
    EndsBefore (wordAt text place) (text.drop (place.snd + 1)) ↔
      ∀ left right, text[place.snd]? = some left → text[place.snd + 1]? = some right →
        right.isAlphanum = true → Parts left right := by
  obtain ⟨last, found, solid⟩ := stretch.last
  simp only [EndsBefore, getLast?_wordAt stretch.inside, List.head?_drop, found, Option.mem_def,
    Option.some.injEq, forall_eq']
  constructor
  · rintro ends _ right rfl next solid'
    exact (isBoundary_iff_parts solid solid').mp (ends right next solid')
  · exact fun ends right next solid' =>
      (isBoundary_iff_parts solid solid').mpr (ends last right rfl next solid')

/-! ### Maximal stretches -/

/-- A position on which no letter or digit stands. -/
def IsApart (text : Text) (i : ℕ) : Prop := ∀ c, text[i]? = some c → c.isAlphanum = false

/-- No stretch reaches across the border in front of a position. -/
def IsBorder (text : Text) (i : ℕ) : Prop :=
  ∀ place, IsStretch text place → place.snd < i ∨ i ≤ place.fst

theorem isBorder_zero (text : Text) : IsBorder text 0 := fun _ _ => Or.inr (Nat.zero_le _)

/-- A stretch is before or behind what is no letter or digit. -/
theorem IsStretch.beside (stretch : IsStretch text place) (apart : IsApart text i) :
    place.snd < i ∨ i < place.fst := by
  by_contra across
  rw [not_or, Nat.not_lt, Nat.not_lt] at across
  obtain ⟨c, found, solid⟩ := stretch.solid i ⟨across.2, across.1⟩
  rw [apart c found] at solid
  cases solid

theorem IsApart.isBorder (apart : IsApart text i) : IsBorder text i := fun _ stretch =>
  (stretch.beside apart).imp_right Nat.le_of_lt

theorem IsApart.isBorder_succ (apart : IsApart text i) : IsBorder text (i + 1) := fun _ stretch =>
  (stretch.beside apart).imp_left Nat.lt_succ_of_lt

theorem Parts.isBorder (parts : Parts left right) (first : text[i]? = some left)
    (second : text[i + 1]? = some right) : IsBorder text (i + 1) := by
  intro place stretch
  by_contra across
  rw [not_or, Nat.not_lt, Nat.not_le] at across
  exact stretch.steady i ⟨by omega, by omega⟩ ⟨by omega, by omega⟩ left right first second parts

/-- The end of a stretch is a border if it does not go on with what stands behind it. -/
theorem IsStretch.isBorder_succ (stretch : IsStretch text place)
    (ends : ∀ left right, text[place.snd]? = some left → text[place.snd + 1]? = some right →
      right.isAlphanum = true → Parts left right) : IsBorder text (place.snd + 1) := by
  obtain ⟨left, last, -⟩ := stretch.last
  by_cases next : ∃ right, text[place.snd + 1]? = some right ∧ right.isAlphanum = true
  · obtain ⟨right, next, solid⟩ := next
    exact (ends left right last next solid).isBorder last next
  · refine IsApart.isBorder fun right found => ?_
    exact Bool.not_eq_true _ ▸ fun solid => next ⟨right, found, solid⟩

/-- **A stretch between two borders is maximal.** -/
theorem IsStretch.maximal (stretch : IsStretch text place) (first : IsBorder text place.fst)
    (last : IsBorder text (place.snd + 1)) : Maximal (IsStretch text) place := by
  refine ⟨stretch, fun wider isStretch reaches => ?_⟩
  have ordered := place.fst_le_snd
  rw [NonemptyInterval.le_def] at reaches ⊢
  have := first wider isStretch
  have := last wider isStretch
  omega

/-- A stretch goes on with a letter or digit behind it, unless that starts a new word. -/
theorem IsStretch.extend (stretch : IsStretch text place) (last : text[place.snd]? = some left)
    (next : text[place.snd + 1]? = some right) (solid : right.isAlphanum = true)
    (joined : ¬ Parts left right) :
    IsStretch text ⟨(place.fst, place.snd + 1), place.fst_le_snd.trans (Nat.le_succ _)⟩ where
  solid i member := by
    rcases Nat.le_succ_iff.mp member.2 with inside | rfl
    · exact stretch.solid i ⟨member.1, inside⟩
    · exact ⟨right, next, solid⟩
  steady i first second before after foundBefore foundAfter := by
    rcases Nat.le_succ_iff.mp second.2 with inside | same
    · exact stretch.steady i ⟨first.1, Nat.le_of_succ_le inside⟩ ⟨second.1, inside⟩ before after
        foundBefore foundAfter
    · obtain rfl : i = place.snd := Nat.succ.inj same
      obtain rfl := Option.some.inj (last.symm.trans foundBefore)
      obtain rfl := Option.some.inj (next.symm.trans foundAfter)
      exact joined

/-- **Behind a maximal stretch a new word starts**, if a letter or digit stands there. -/
theorem parts_of_maximal (maximal : Maximal (IsStretch text) place)
    (last : text[place.snd]? = some left) (next : text[place.snd + 1]? = some right)
    (solid : right.isAlphanum = true) : Parts left right := by
  by_contra joined
  have shorter := (maximal.2 (maximal.1.extend last next solid joined) ⟨le_rfl, Nat.le_succ _⟩).2
  exact absurd shorter (Nat.not_succ_le_self _)

end IconComponents.Name
