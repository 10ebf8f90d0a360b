/-
**How a text is cut into words.**

A text is a row of words with other characters between them. A word is as long as it can be: behind it
the text ends, or something stands that is no letter or digit, or a boundary lies there.

* `IsWord` — letters and digits without a boundary among them;
* `IsCut` — a text and its words, one after the other;
* `isCut_cutWords`, `IsCut.eq_cutWords` — **the words of a text are its only cut**;
* `IsCut.flatten` — no letter or digit is lost.

The cut starts at the end of a text, but the words can be read from its start as well. It is enough to
know which words are finished, what stands in the one that is not, and what was read last: a boundary
is seen as soon as the character behind it is read.

* `Reading.read` — one more character;
* `Reading.IsOf`, `Reading.IsOf.read` — what is known of the text so far, and that it stays so;
* `words_foldl_read` — **a text that is read to its end has given its words.**
-/

import Mathlib.Data.List.Chain
import IconComponents.Name.Words
import IconComponents.Proofs.Text.Scan

namespace IconComponents.Name

variable {text behind word : Text} {list : List Text} {c : Char}

/-! ### Words -/

/-- Letters and digits without a boundary among them, at least one. -/
structure IsWord (word : Text) : Prop where
  some : word ≠ []
  solid : ∀ c ∈ word, c.isAlphanum = true
  steady : word.IsChain fun left right => isBoundary left right = false

/-- A word goes no further: what stands behind it is no letter or digit, or a boundary is between. -/
def EndsBefore (word behind : Text) : Prop :=
  ∀ last ∈ word.getLast?, ∀ next ∈ behind.head?,
    next.isAlphanum = true → isBoundary last next = true

theorem isWord_singleton (solid : c.isAlphanum = true) : IsWord [c] :=
  ⟨List.cons_ne_nil c [], by simpa using solid, List.isChain_singleton c⟩

theorem isWord_cons_cons_iff {next : Char} : IsWord (c :: next :: word) ↔
    c.isAlphanum = true ∧ isBoundary c next = false ∧ IsWord (next :: word) := by
  constructor
  · rintro ⟨-, solid, steady⟩
    rw [List.forall_mem_cons] at solid
    rw [List.isChain_cons_cons] at steady
    exact ⟨solid.1, steady.1, List.cons_ne_nil _ _, solid.2, steady.2⟩
  · rintro ⟨solid, joined, isWord⟩
    exact ⟨List.cons_ne_nil _ _, List.forall_mem_cons.mpr ⟨solid, isWord.solid⟩,
      List.isChain_cons_cons.mpr ⟨joined, isWord.steady⟩⟩

theorem endsBefore_cons_cons_iff {next : Char} :
    EndsBefore (c :: next :: word) behind ↔ EndsBefore (next :: word) behind := by
  unfold EndsBefore
  rw [List.getLast?_cons_cons]

theorem endsBefore_singleton_cons_iff {next : Char} : EndsBefore [c] (next :: behind) ↔
    (next.isAlphanum = true → isBoundary c next = true) := by
  simp [EndsBefore]

theorem endsBefore_of_not_alphanum (apart : ∀ next ∈ behind.head?, next.isAlphanum = false) :
    EndsBefore word behind := fun _ _ next first solid =>
  absurd solid (by rw [apart next first]; exact Bool.false_ne_true)

/-! ### Cutting -/

/-- A text and its words, with other characters before, between and behind them. -/
inductive IsCut : Text → List Text → Prop
  | done : IsCut [] []
  | apart {c : Char} {text : Text} {list : List Text} (apart : c.isAlphanum = false)
    (rest : IsCut text list) : IsCut (c :: text) list
  | word {word behind : Text} {list : List Text} (isWord : IsWord word)
    (ends : EndsBefore word behind) (rest : IsCut behind list) :
    IsCut (word ++ behind) (word :: list)

/-- How a letter or digit joins the words of what is behind it. -/
theorem cutWords_cons_cons {next : Char} (solid : c.isAlphanum = true) (text : Text) :
    cutWords (c :: next :: text) =
      if next.isAlphanum && !isBoundary c next then extendFirst c (cutWords (next :: text))
      else [c] :: cutWords (next :: text) := by
  rw [cutWords.eq_def]
  simp only [solid, if_true]

theorem cutWords_singleton (solid : c.isAlphanum = true) : cutWords [c] = [[c]] := by
  rw [cutWords.eq_def]
  exact if_pos solid

theorem cutWords_cons_of_not_alphanum (apart : ¬ c.isAlphanum = true) (text : Text) :
    cutWords (c :: text) = cutWords text := by
  rw [cutWords.eq_def]
  exact if_neg apart

/-- **A word is cut off** where it ends. -/
theorem cutWords_append (isWord : IsWord word) (ends : EndsBefore word behind) :
    cutWords (word ++ behind) = word :: cutWords behind := by
  induction word with
  | nil => exact absurd rfl isWord.some
  | cons c word ih =>
    have solid := isWord.solid c List.mem_cons_self
    cases word with
    | nil =>
      cases behind with
      | nil => exact cutWords_singleton solid
      | cons next behind =>
        have separate : (next.isAlphanum && !isBoundary c next) = false := by
          cases solid' : next.isAlphanum with
          | false => rfl
          | true => rw [endsBefore_singleton_cons_iff.mp ends solid']; rfl
        rw [List.singleton_append, cutWords_cons_cons solid, separate]
        rfl
    | cons next word =>
      obtain ⟨-, joined, isWord⟩ := isWord_cons_cons_iff.mp isWord
      have solid' := isWord.solid next List.mem_cons_self
      have rest := ih isWord (endsBefore_cons_cons_iff.mp ends)
      rw [List.cons_append] at rest
      rw [List.cons_append, List.cons_append, cutWords_cons_cons solid, solid', joined, rest]
      rfl

/-- **A text has one cut.** -/
theorem IsCut.eq_cutWords (cut : IsCut text list) : list = cutWords text := by
  induction cut with
  | done => rfl
  | apart apart _ ih => rw [cutWords_cons_of_not_alphanum (by simp [apart]), ih]
  | word isWord ends _ ih => rw [cutWords_append isWord ends, ih]

/-- A cut of a text that starts with a letter or digit starts with a word. -/
theorem IsCut.exists_first (cut : IsCut (c :: text) list) (solid : c.isAlphanum = true) :
    ∃ word behind others, text = word ++ behind ∧ list = (c :: word) :: others ∧
      IsWord (c :: word) ∧ EndsBefore (c :: word) behind ∧ IsCut behind others := by
  generalize whole : c :: text = first at cut
  cases cut with
  | done => cases whole
  | apart apart _ =>
    rw [← (List.cons.inj whole).1, solid] at apart
    cases apart
  | @word word behind others isWord ends rest =>
    cases word with
    | nil => exact absurd rfl isWord.some
    | cons d word =>
      obtain ⟨rfl, rfl⟩ := List.cons.inj whole
      exact ⟨word, behind, others, rfl, rfl, isWord, ends, rest⟩

/-- **The words of a text are a cut of it.** -/
theorem isCut_cutWords (text : Text) : IsCut text (cutWords text) := by
  induction text with
  | nil => exact .done
  | cons c text ih =>
    by_cases solid : c.isAlphanum = true
    · cases text with
      | nil =>
        rw [cutWords_singleton solid]
        exact .word (isWord_singleton solid) (endsBefore_of_not_alphanum (by simp)) .done
      | cons next text =>
        rw [cutWords_cons_cons solid]
        split
        · next joins =>
          simp only [Bool.and_eq_true, Bool.not_eq_true'] at joins
          obtain ⟨word, behind, others, rfl, list, isWord, ends, rest⟩ := ih.exists_first joins.1
          rw [list]
          exact .word (isWord_cons_cons_iff.mpr ⟨solid, joins.2, isWord⟩)
            (endsBefore_cons_cons_iff.mpr ends) rest
        · next separate =>
          refine .word (isWord_singleton solid) (endsBefore_singleton_cons_iff.mpr ?_) ih
          intro solid'
          simpa [solid'] using separate
    · rw [cutWords_cons_of_not_alphanum solid]
      exact .apart (Bool.not_eq_true _ ▸ solid) ih

/-! ### What the words hold -/

theorem IsCut.isWord (cut : IsCut text list) : ∀ word ∈ list, IsWord word := by
  induction cut with
  | done => exact fun _ member => absurd member List.not_mem_nil
  | apart _ _ ih => exact ih
  | word isWord _ _ ih => exact List.forall_mem_cons.mpr ⟨isWord, ih⟩

/-- What is cut out is a word. -/
theorem isWord_of_mem_cutWords (found : word ∈ cutWords text) : IsWord word :=
  (isCut_cutWords text).isWord word found

/-- **No letter or digit is lost**, repeated or moved. -/
theorem IsCut.flatten (cut : IsCut text list) : list.flatten = text.filter Char.isAlphanum := by
  induction cut with
  | done => rfl
  | apart apart _ ih => rw [List.filter_cons_of_neg (by simp [apart]), ih]
  | word isWord _ _ ih =>
    rw [List.flatten_cons, ih, List.filter_append, List.filter_eq_self.mpr isWord.solid]

/-- **A word is a row of digits or a row of letters.** -/
theorem IsWord.digits_or_letters (isWord : IsWord word) :
    (∀ c ∈ word, c.isDigit = true) ∨ ∀ c ∈ word, c.isDigit = false := by
  induction word with
  | nil => exact absurd rfl isWord.some
  | cons c word ih =>
    cases word with
    | nil => cases digit : c.isDigit <;> simp [digit]
    | cons next word =>
      obtain ⟨-, joined, rest⟩ := isWord_cons_cons_iff.mp isWord
      simp only [isBoundary, Bool.or_eq_false_iff, bne_eq_false_iff_eq] at joined
      simp only [List.forall_mem_cons (a := c), joined.2]
      exact (ih rest).imp (fun digits => ⟨digits next List.mem_cons_self, digits⟩)
        fun letters => ⟨letters next List.mem_cons_self, letters⟩

/-! ### Reading from the start -/

variable {front : Text}

/-- What is known of a text that is read from its start: the words that are finished, the one that
is not, empty if the next letter or digit starts one, and what was read last, if it is a letter or
digit. -/
structure Reading where
  finished : List Text
  pending : Text
  previous : Option Char

namespace Reading

variable {reading : Reading}

/-- Before anything is read. -/
def start : Reading := ⟨[], [], none⟩

/-- The words if nothing else belongs to the last one. -/
def words (reading : Reading) : List Text :=
  if reading.pending = [] then reading.finished else reading.finished ++ [reading.pending]

/-- One more character. -/
def read (reading : Reading) (c : Char) : Reading :=
  if c.isAlphanum then
    if reading.previous.any (isBoundary · c) then ⟨reading.words, [c], some c⟩
    else ⟨reading.finished, reading.pending ++ [c], some c⟩
  else ⟨reading.words, [], none⟩

/-- What is known fits the text so far: whatever stands behind it, the finished words are cut off,
and the one that is not finished goes on. -/
structure IsOf (front : Text) (reading : Reading) : Prop where
  previous : reading.previous = reading.pending.getLast?
  pending : reading.pending ≠ [] → IsWord reading.pending
  finished : ∀ behind, cutWords (front ++ behind) =
    reading.finished ++ cutWords (reading.pending ++ behind)

theorem isOf_start : IsOf [] start := ⟨rfl, fun some => absurd rfl some, fun _ => rfl⟩

/-- Where the last word ends, it is one of the words. -/
theorem IsOf.words (isOf : IsOf front reading) (ends : EndsBefore reading.pending behind) :
    cutWords (front ++ behind) = reading.words ++ cutWords behind := by
  rw [isOf.finished, Reading.words]
  split
  · next none => rw [none, List.nil_append]
  · next some => rw [cutWords_append (isOf.pending some) ends, List.append_assoc,
      List.singleton_append]

/-- One more letter or digit goes on with a word or starts one, if no boundary is in front of it. -/
theorem isWord_concat {word : Text} (isWord : word ≠ [] → IsWord word)
    (solid : c.isAlphanum = true)
    (joined : ∀ last ∈ word.getLast?, isBoundary last c = false) : IsWord (word ++ [c]) := by
  rcases eq_or_ne word [] with rfl | some
  · exact isWord_singleton solid
  · refine ⟨by simp, fun d member => ?_, ?_⟩
    · rcases List.mem_append.mp member with inside | last
      · exact (isWord some).solid d inside
      · rwa [List.mem_singleton.mp last]
    · refine List.isChain_append.mpr ⟨(isWord some).steady, List.isChain_singleton c, ?_⟩
      rintro last isLast _ ⟨⟩
      exact joined last isLast

/-- **One more character** is known of the text with that character. -/
theorem IsOf.read (isOf : IsOf front reading) (c : Char) :
    IsOf (front ++ [c]) (reading.read c) := by
  unfold Reading.read
  split
  · next solid =>
    split
    · next boundary =>
      refine ⟨rfl, fun _ => isWord_singleton solid, fun behind => ?_⟩
      rw [List.append_assoc]
      refine isOf.words ?_
      rintro last isLast _ ⟨⟩ _
      rwa [isOf.previous, isLast] at boundary
    · next joined =>
      refine ⟨List.getLast?_concat.symm, fun _ => isWord_concat isOf.pending solid ?_,
        fun behind => ?_⟩
      · intro last isLast
        rw [isOf.previous, isLast] at joined
        exact Bool.not_eq_true _ ▸ joined
      · rw [List.append_assoc, isOf.finished, List.append_assoc]
  · next apart =>
    refine ⟨rfl, fun some => absurd rfl some, fun behind => ?_⟩
    have ends : EndsBefore reading.pending ([c] ++ behind) := by
      refine endsBefore_of_not_alphanum ?_
      rintro _ ⟨⟩
      exact Bool.not_eq_true _ ▸ apart
    rw [List.append_assoc, isOf.words ends, List.singleton_append,
      cutWords_cons_of_not_alphanum apart]
    rfl

/-- Reading a text character by character leaves its words. -/
theorem isOf_foldl_read (text : Text) : IsOf text (text.foldl read start) := by
  induction text using List.reverseRecOn with
  | nil => exact isOf_start
  | append_singleton front c ih =>
    rw [List.foldl_concat]
    exact ih.read c

end Reading

/-- **A text that is read to its end has given its words.** -/
theorem words_foldl_read (text : Text) :
    (text.foldl Reading.read Reading.start).words = cutWords text := by
  have ended : EndsBefore (text.foldl Reading.read Reading.start).pending [] :=
    endsBefore_of_not_alphanum (by simp)
  have whole := (Reading.isOf_foldl_read text).words ended
  rw [List.append_nil] at whole
  rw [whole, cutWords, List.append_nil]

end IconComponents.Name
