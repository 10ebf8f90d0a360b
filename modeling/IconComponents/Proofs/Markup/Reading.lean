/-
**Reading at the front of a masked text.**

At every place the next characters of a text and of the masked one are the same, or a word is masked
there. So a run of characters among which are neither a mark nor the first letter of the word is the
same in both texts, and so is whatever is read by means of such runs.

* `NextAlike`, `Alongside.next` — the next characters;
* `StopsAtWords`, `Alongside.run` — runs of characters that end where a word is masked;
* `SameReading` — what is read at the front of both is the same, and what is left belongs together;
* `Aligned.trim` — white space is taken off both texts alike.
-/

import IconComponents.Proofs.Markup.Alongside
import IconComponents.Proofs.Text.Blank

namespace IconComponents

variable {mask text masked rest rest' : Text} {c : Char} {p : Char → Bool}

/-- A text with neither the word nor a mark is masked from no other. -/
theorem Aligned.eq_iff (isMask : IsMask mask) {fixed : Text} (aligned : Aligned mask text masked)
    (silent : mentionsCurrentColor fixed = false) (unmarked : '#' ∉ fixed) :
    masked = fixed ↔ text = fixed := by
  rw [aligned.same]
  exact maskWith_eq_iff_of_unmarked isMask silent unmarked

/-! ### The next character -/

/-- The next characters: there are none, they are the same, or the word is masked here. -/
inductive NextAlike (mask : Text) : Text → Text → Prop
  | ended : NextAlike mask [] []
  | same {text masked : Text} (c : Char) (behind : Behind mask c text masked) :
    NextAlike mask (c :: text) (c :: masked)
  | swapped {text masked : Text} {letter : Char} (isLetter : letter = 'c' ∨ letter = 'C')
      (swapped : Swapped mask (letter :: text) ('#' :: masked)) :
    NextAlike mask (letter :: text) ('#' :: masked)

/-- The word is made of letters. -/
theorem isAlpha_of_isCurrentColor {word : Text} (named : isCurrentColor word = true) :
    ∀ c ∈ word, c.isAlpha = true := by
  intro c member
  have letter : c.toLower ∈ Text.lower currentColor := by
    rw [← lower_of_isCurrentColor named]
    exact List.mem_map_of_mem member
  rcases letter_cases letter with ⟨upper, -⟩ | small
  · exact Bool.or_eq_true_iff.mpr (.inl upper)
  · have letters : (Text.lower currentColor).all Char.isAlpha = true := by decide
    exact List.all_eq_true.mp letters c small

/-- The first letter of the word. -/
theorem letter_of_isCurrentColor {word : Text} (named : isCurrentColor (c :: word) = true) :
    c = 'c' ∨ c = 'C' := by
  have first : c.toLower = 'c' := (List.cons.inj (lower_of_isCurrentColor named)).1
  have letter := isAlpha_of_isCurrentColor named c List.mem_cons_self
  exact Text.of_isAlphanum (P := fun c => c.toLower = 'c' → c = 'c' ∨ c = 'C') (by decide +kernel)
    (Bool.or_eq_true_iff.mpr (.inl letter)) first

/-- The word has a first letter. -/
theorem exists_letter_of_isCurrentColor {word : Text} (named : isCurrentColor word = true) :
    ∃ letter others, word = letter :: others ∧ (letter = 'c' ∨ letter = 'C') := by
  obtain ⟨letter, others, rfl⟩ := List.exists_cons_of_ne_nil (isSolid_of_isCurrentColor named).some
  exact ⟨letter, others, rfl, letter_of_isCurrentColor named⟩

/-- Behind its first letter the word goes on with the second one. -/
theorem exists_second_of_swapped {letter : Char} (swapped : Swapped mask (letter :: text) masked) :
    ∃ second others, text = second :: others ∧ (second = 'u' ∨ second = 'U') := by
  obtain ⟨word, behind, named, -, split, -⟩ := swapped
  have lower := lower_of_isCurrentColor named
  match word, split with
  | [], _ => exact absurd lower (by decide)
  | [_], _ => exact absurd (congrArg List.length lower) (by simp [Text.lower]; decide)
  | first :: second :: word, split =>
    have small : second.toLower = 'u' := (List.cons.inj (List.cons.inj lower).2).1
    have solid := isAlpha_of_isCurrentColor named second (by simp)
    refine ⟨second, word ++ behind, (List.cons.inj split).2, ?_⟩
    exact Text.of_isAlphanum (P := fun c => c.toLower = 'u' → c = 'u' ∨ c = 'U')
      (by decide +kernel) (Bool.or_eq_true_iff.mpr (.inl solid)) small

/-- **What comes next** at two places that belong together. -/
theorem Alongside.next (isMask : IsMask mask) (alongside : Alongside mask text masked) :
    NextAlike mask text masked := by
  cases masked with
  | nil =>
    obtain rfl := alongside.nil isMask
    exact .ended
  | cons c masked =>
    rcases alongside.cons with ⟨text', rfl, behind⟩ | swapped
    · exact .same c behind
    · obtain rfl := swapped.mark isMask
      obtain ⟨word, rest, named, ends, rfl, same⟩ := swapped
      obtain ⟨letter, word, rfl, isLetter⟩ := exists_letter_of_isCurrentColor named
      exact .swapped isLetter ⟨_, _, named, ends, rfl, same⟩

/-- A text that goes on with a character of no word, and one that does not. -/
theorem Alongside.split (isMask : IsMask mask) (apart : Char.isWord c = false)
    (unmarked : c ≠ '#') (alongside : Alongside mask text masked) :
    (∃ rest rest', text = c :: rest ∧ masked = c :: rest' ∧ Alongside mask rest rest') ∨
      (∀ rest, text ≠ c :: rest) ∧ ∀ rest', masked ≠ c :: rest' := by
  have head := alongside.head?_eq_iff isMask apart unmarked
  by_cases first : text.head? = some c
  · obtain ⟨rest, rfl⟩ := List.head?_eq_some_iff.mp first
    obtain ⟨rest', rfl⟩ := List.head?_eq_some_iff.mp (head.mp first)
    cases alongside.next isMask with
    | same _ behind => exact Or.inl ⟨rest, rest', rfl, rfl, behind.alongside⟩
    | swapped => exact absurd rfl unmarked
  · refine Or.inr ⟨fun rest same => first (same ▸ rfl), fun rest' same => first (head.mpr ?_)⟩
    rw [same, List.head?_cons]

/-! ### Runs -/

/-- A run of characters among which is neither a mark nor the first letter of the word. -/
structure StopsAtWords (p : Char → Bool) : Prop where
  mark : p '#' = false
  small : p 'c' = false
  capital : p 'C' = false

/-- Such a run ends at the first letter of the word. -/
theorem StopsAtWords.letter (stops : StopsAtWords p) (isLetter : c = 'c' ∨ c = 'C') :
    p c = false := by
  rcases isLetter with rfl | rfl
  · exact stops.small
  · exact stops.capital

theorem stopsAtWords_isDigit : StopsAtWords Char.isDigit := ⟨rfl, rfl, rfl⟩

/-- **A run of other characters** is the same in both texts. -/
theorem Alongside.run (isMask : IsMask mask) (stops : StopsAtWords p)
    (alongside : Alongside mask text masked) :
    text.takeWhile p = masked.takeWhile p ∧
      Alongside mask (text.dropWhile p) (masked.dropWhile p) := by
  induction masked generalizing text with
  | nil =>
    obtain rfl := alongside.nil isMask
    exact ⟨rfl, alongside⟩
  | cons c masked ih =>
    cases alongside.next isMask with
    | same c behind =>
      cases kept : p c with
      | true =>
        simp only [List.takeWhile_cons, List.dropWhile_cons, kept, if_true]
        obtain ⟨taken, left⟩ := ih behind.alongside
        exact ⟨by rw [taken], left⟩
      | false =>
        simp only [List.takeWhile_cons, List.dropWhile_cons, kept, Bool.false_eq_true, if_false]
        exact ⟨trivial, alongside⟩
    | swapped isLetter _ =>
      simp only [List.takeWhile_cons, List.dropWhile_cons, stops.mark, stops.letter isLetter,
        Bool.false_eq_true, if_false]
      exact ⟨trivial, alongside⟩

theorem isWord_of_isAlphanum (solid : c.isAlphanum = true) : Char.isWord c = true :=
  Text.of_isAlphanum (P := fun c => Char.isWord c = true) (by decide +kernel) solid

theorem isWord_of_isHexDigit (hex : Char.isHexDigit c = true) : Char.isWord c = true :=
  isWord_of_isAlphanum (Text.isAlphanum_of_isHexDigit hex)

/-- **A run within a word** that is kept is the same in both texts. -/
theorem WithinWord.run (isMask : IsMask mask) (solid : ∀ c, p c = true → Char.isWord c = true)
    (within : WithinWord mask text masked) : text.takeWhile p = masked.takeWhile p ∧
      Alongside mask (text.dropWhile p) (masked.dropWhile p) := by
  induction masked generalizing text with
  | nil =>
    obtain rfl := Alongside.nil isMask (Or.inr within)
    exact ⟨rfl, Or.inr within⟩
  | cons c masked ih =>
    obtain ⟨text', rfl, behind⟩ := within.cons
    cases kept : p c with
    | true =>
      simp only [List.takeWhile_cons, List.dropWhile_cons, kept, if_true]
      obtain ⟨taken, left⟩ := ih (behind.within (solid c kept))
      exact ⟨by rw [taken], left⟩
    | false =>
      simp only [List.takeWhile_cons, List.dropWhile_cons, kept, Bool.false_eq_true, if_false]
      exact ⟨trivial, Or.inr within⟩

/-- The next character is one of the others in both texts, or in none. -/
theorem Alongside.head?_eq (isMask : IsMask mask) (stops : StopsAtWords p)
    (alongside : Alongside mask text masked) : text.head?.any p = masked.head?.any p := by
  cases alongside.next isMask with
  | ended => rfl
  | same => rfl
  | swapped isLetter => exact (stops.letter isLetter).trans stops.mark.symm

/-! ### Readings -/

/-- What is made of related outcomes is related, if that is so of all of them. -/
theorem rel_bind {α α' β β' : Type} {R : α → α' → Prop} {S : β → β' → Prop} {one : Option α}
    {other : Option α'} {next : α → Option β} {next' : α' → Option β'}
    (both : Option.Rel R one other)
    (then' : ∀ a a', one = some a → R a a' → Option.Rel S (next a) (next' a')) :
    Option.Rel S (one.bind next) (other.bind next') := by
  cases both with
  | none => exact .none
  | some related => exact then' _ _ rfl related

/-- What is read at the front of both texts is the same, and what is left belongs together. -/
inductive SameReading (mask : Text) {α : Type} :
    Option (α × Text) → Option (α × Text) → Prop
  | none : SameReading mask none none
  | some (value : α) {rest rest' : Text} (behind : Alongside mask rest rest') :
    SameReading mask (some (value, rest)) (some (value, rest'))

variable {α β : Type} {first first' : Option (α × Text)}

/-- What is read on behind is the same, too. -/
theorem SameReading.bind {next : α × Text → Option (β × Text)} (both : SameReading mask first first')
    (then' : ∀ {value rest rest'}, Alongside mask rest rest' →
      SameReading mask (next (value, rest)) (next (value, rest'))) :
    SameReading mask (first.bind next) (first'.bind next) := by
  cases both with
  | none => exact .none
  | some value behind => exact then' behind

/-- What is made of the reading is the same, too. -/
theorem SameReading.map {change : α × Text → β × Text} (both : SameReading mask first first')
    (value : ∀ {value rest rest'}, Alongside mask rest rest' →
      (change (value, rest)).1 = (change (value, rest')).1)
    (behind : ∀ {value rest rest'}, Alongside mask rest rest' →
      Alongside mask (change (value, rest)).2 (change (value, rest')).2) :
    SameReading mask (first.map change) (first'.map change) := by
  cases both with
  | none => exact .none
  | some found left =>
    rename_i rest rest'
    have same : (change (found, rest)).1 = (change (found, rest')).1 := value left
    have left : Alongside mask (change (found, rest)).2 (change (found, rest')).2 := behind left
    rw [Option.map_some, Option.map_some]
    generalize change (found, rest) = one at same left
    generalize change (found, rest') = other at same left
    obtain ⟨one, rest⟩ := one
    obtain ⟨other, rest'⟩ := other
    cases same
    exact .some _ left

/-! ### White space at the ends -/

/-- A run of characters that are in no word is taken off both texts. -/
theorem dropWhile_maskWith (isMask : IsMask mask) (unmarked : p '#' = false)
    (apart : ∀ c, p c = true → Char.isWord c = false) (text : Text) :
    (maskWith mask text).dropWhile p = maskWith mask (text.dropWhile p) := by
  induction text using word_induction with
  | nil => simp
  | apart c text kind ih =>
    rw [maskWith_cons kind, List.dropWhile_cons, List.dropWhile_cons]
    split
    · exact ih
    · rw [maskWith_cons kind]
  | word word rest solid ends _ =>
    have kept {stretch : Text} (nonempty : stretch ≠ [])
        (kind : ∀ c ∈ stretch, c = '#' ∨ Char.isWord c = true) (behind : Text) :
        (stretch ++ behind).dropWhile p = stretch ++ behind := by
      obtain ⟨c, others, rfl⟩ := List.exists_cons_of_ne_nil nonempty
      rw [List.cons_append, List.dropWhile_cons_of_neg]
      intro passed
      rcases kind c List.mem_cons_self with rfl | word
      · rw [unmarked] at passed
        cases passed
      · rw [apart c passed] at word
        cases word
    rw [maskWith_word solid ends, kept solid.some fun c member => Or.inr (solid.solid c member),
      maskWith_word solid ends, kept _ (maskWord_head isMask solid)]
    unfold maskWord
    split
    · exact isMask.some
    · exact solid.some

/-- White space behind a text is not masked. -/
theorem maskWith_append_blank {blanks : Text} (blank : ∀ c ∈ blanks, Char.isBlank c = true)
    (text : Text) : maskWith mask (text ++ blanks) = maskWith mask text ++ blanks := by
  induction blanks generalizing text with
  | nil => rw [List.append_nil, List.append_nil]
  | cons c blanks ih =>
    obtain ⟨first, blank⟩ := List.forall_mem_cons.mp blank
    have apart := Text.not_isWord_of_isBlank first
    rw [maskWith_append_cons apart, ← List.nil_append blanks, ih blank, maskWith_nil]

/-- A masked text ends in a character of no word only where the text does. -/
theorem getLast?_of_maskWith (isMask : IsMask mask) (apart : Char.isWord c = false)
    (unmarked : c ≠ '#') (last : (maskWith mask text).getLast? = some c) :
    text.getLast? = some c := by
  induction text using word_induction with
  | nil => rwa [maskWith_nil] at last
  | apart d text kind ih =>
    rw [maskWith_cons kind] at last
    cases text with
    | nil => rwa [maskWith_nil] at last
    | cons e text =>
      have some : maskWith mask (e :: text) ≠ [] := fun none =>
        List.cons_ne_nil _ _ ((maskWith_eq_nil_iff isMask).mp none)
      rw [List.getLast?_cons_of_ne_nil some] at last
      rw [List.getLast?_cons_of_ne_nil (List.cons_ne_nil _ _)]
      exact ih last
  | word word rest solid ends ih =>
    rw [maskWith_word solid ends] at last
    cases rest with
    | nil =>
      rw [maskWith_nil, List.append_nil] at last
      rcases maskWord_head isMask solid c (List.mem_of_getLast? last) with rfl | kind
      · exact absurd rfl unmarked
      · rw [apart] at kind
        cases kind
    | cons e rest =>
      have some : maskWith mask (e :: rest) ≠ [] := fun none =>
        List.cons_ne_nil _ _ ((maskWith_eq_nil_iff isMask).mp none)
      rw [List.getLast?_append_of_ne_nil _ some] at last
      rw [List.getLast?_append_of_ne_nil _ (List.cons_ne_nil _ _)]
      exact ih last

theorem skipSpace_maskWith (isMask : IsMask mask) (text : Text) :
    Text.skipSpace (maskWith mask text) = maskWith mask (Text.skipSpace text) :=
  dropWhile_maskWith isMask (by decide) (fun _ => isWord_of_isSpace) text

theorem trimEnd_maskWith (isMask : IsMask mask) (text : Text) :
    Text.trimEnd (maskWith mask text) = maskWith mask (Text.trimEnd text) := by
  obtain ⟨blanks, split, blank, solid⟩ := Text.exists_trimEnd text
  generalize Text.trimEnd text = kept at split solid
  rw [split, maskWith_append_blank blank, Text.trimEnd_append _ blank]
  intro c last
  rw [← Bool.not_eq_true]
  intro blank
  have apart := Text.not_isWord_of_isBlank blank
  have unmarked : c ≠ '#' := by
    rintro rfl
    exact absurd blank (by decide)
  rw [solid c (getLast?_of_maskWith isMask apart unmarked last)] at blank
  cases blank

/-- **White space is taken off both ends** of a masked text as it is of the text. -/
theorem trim_maskWith (isMask : IsMask mask) (text : Text) :
    Text.trim (maskWith mask text) = maskWith mask (Text.trim text) := by
  have start : Text.trimStart (maskWith mask text) = maskWith mask (Text.trimStart text) :=
    dropWhile_maskWith isMask (by decide) (fun _ => Text.not_isWord_of_isBlank) text
  rw [Text.trim, Text.trim, start, trimEnd_maskWith isMask]

theorem Aligned.trim (isMask : IsMask mask) (aligned : Aligned mask text masked) :
    Aligned mask (Text.trim text) (Text.trim masked) :=
  ⟨aligned.same ▸ trim_maskWith isMask text⟩

end IconComponents
