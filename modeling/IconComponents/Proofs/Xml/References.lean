/-
**References in a masked document.**

A reference stands for something else in the tree, so a word of a value need not be one of the text.
This does no harm as long as each reference stands for a character that is in no word, such as a
bracket or a line end: it is then the same reference in both documents, words end at it in the text
as well as in the value, and the masked value is the value masked.

* `RefersApart` — texts whose references are so;
* `Reader.reference_found` — a reference of the masked document is one of the document;
* `reference_induction` — how a text with references is read;
* `expansions_alongside` — words between tags, which expand to nothing;
* `decode_masked` — the value of an attribute.
-/

import IconComponents.Proofs.Markup.Reading
import IconComponents.Proofs.Xml.Front
import IconComponents.Xml.Token

namespace IconComponents.Xml

open Reader

variable {mask text masked rest rest' : Text} {entities entities' : Entities} {levels : Nat}

/-! ### References -/

/-- The reference stands for a character that is in no word. -/
def Reference.isApart : Reference → Bool
  | character c => !Char.isWord c
  | entity _ => false

/-- **The references of a text are apart**: each one stands for a character that is in no word. -/
def RefersApart (text : Text) : Prop :=
  ∀ inner found reference, '&' :: inner <:+: text → Reader.reference inner = .ok found →
    found.value = some reference → reference.isApart = true

/-- The characters that have names are in no word. -/
example : namedCharacters.all (fun entry => (Reference.character entry.2).isApart) = true := by
  decide

/-- A text without ampersands has no references. -/
theorem refersApart_of_plain (plain : '&' ∉ text) : RefersApart text :=
  fun _ _ _ within => absurd (within.mem List.mem_cons_self) plain

theorem RefersApart.of_infix {part : Text} (apart : RefersApart text) (within : part <:+: text) :
    RefersApart part :=
  fun inner found reference start => apart inner found reference (start.trans within)

theorem RefersApart.of_suffix {part : Text} (apart : RefersApart text) (within : part <:+ text) :
    RefersApart part :=
  apart.of_infix within.isInfix

namespace Reader

variable {found : Reference}

theorem Reads.suffix {α : Type} {reader : Reader α} {value : α}
    (reads : Reads reader text value rest) : rest <:+ text := by
  obtain ⟨found, -, -, rfl⟩ := reads
  exact found.suffix

theorem reads_skip_iff {words : Text} {value : Bool} : Reads (skip words) text value rest ↔
    value = true ∧ Text.after? words text = some rest ∨
      value = false ∧ Text.after? words text = none ∧ rest = text := by
  constructor
  · rintro ⟨found, read, rfl, rfl⟩
    cases start : Text.after? words text with
    | none =>
      obtain ⟨other, read', value, left⟩ := skip_of_none start
      obtain rfl := Except.ok.inj (read.symm.trans read')
      exact Or.inr ⟨value, rfl, left⟩
    | some left =>
      obtain ⟨other, read', value, rfl⟩ := skip_of_some start
      obtain rfl := Except.ok.inj (read.symm.trans read')
      exact Or.inl ⟨value, rfl⟩
  · rintro (⟨rfl, start⟩ | ⟨rfl, start, rfl⟩)
    · exact skip_of_some start
    · exact skip_of_none start

/-- The digits of a code. -/
def codeDigit (hexadecimal : Bool) : Char → Bool :=
  if hexadecimal then Char.isHexDigit else Char.isDigit

/-- What is read of a character that is given by its code. -/
theorem reads_codedCharacter_iff : Reads codedCharacter text (some found) rest ↔
    ∃ hexadecimal behind, Reads (skip ['x']) text hexadecimal behind ∧
      (charOf? (if hexadecimal then 16 else 10) (behind.takeWhile (codeDigit hexadecimal))).map
        .character = some found ∧ rest = behind.dropWhile (codeDigit hexadecimal) := by
  unfold codedCharacter
  simp only [reads_bind_iff, reads_takeWhile_iff, reads_pure_iff]
  constructor
  · rintro ⟨hexadecimal, behind, skips, _, _, ⟨rfl, rfl⟩, value, rfl⟩
    exact ⟨hexadecimal, behind, skips, value, rfl⟩
  · rintro ⟨hexadecimal, behind, skips, value, rfl⟩
    exact ⟨hexadecimal, behind, skips, _, _, ⟨rfl, rfl⟩, value, rfl⟩

/-- What is read of an entity, or of a character that has a name. -/
theorem reads_namedEntity_iff : Reads namedEntity text (some found) rest ↔
    ((text.takeWhile isNameChar).head?.any fun c => c = ':' || isNameStart c) = true ∧
      (namedCharacters.lookup (text.takeWhile isNameChar)).elim
        (.entity (text.takeWhile isNameChar)) .character = found ∧
      rest = text.dropWhile isNameChar := by
  unfold namedEntity nameParts
  simp only [reads_bind_iff, reads_takeWhile_iff]
  constructor
  · rintro ⟨_, _, ⟨rfl, rfl⟩, named⟩
    split at named
    · next starts =>
      obtain ⟨value, rfl⟩ := reads_pure_iff.mp named
      exact ⟨starts, Option.some.inj value, rfl⟩
    · obtain ⟨none, -⟩ := reads_pure_iff.mp named
      cases none
  · rintro ⟨starts, rfl, rfl⟩
    refine ⟨_, _, ⟨rfl, rfl⟩, ?_⟩
    rw [if_pos starts]
    exact reads_pure_iff.mpr ⟨rfl, rfl⟩

/-- What is read behind the mark of a reference: it ends in a semicolon. -/
theorem reads_ended_iff {reader : Reader (Option Reference)} :
    Reads (do
      let found ← reader
      return if ← skip [';'] then found else none) text (some found) rest ↔
        Reads reader text (some found) (';' :: rest) := by
  simp only [reads_bind_iff, reads_pure_iff]
  constructor
  · rintro ⟨value, behind, read, ended, _, skips, same, rfl⟩
    rcases reads_skip_iff.mp skips with ⟨rfl, start⟩ | ⟨rfl, -, -⟩
    · rw [if_pos rfl] at same
      obtain rfl := Text.after?_eq_some_iff.mp start
      subst same
      exact read
    · rw [if_neg Bool.false_ne_true] at same
      cases same
  · intro read
    exact ⟨_, _, read, true, rest, reads_skip_iff.mpr (Or.inl ⟨rfl, rfl⟩), if_pos rfl, rfl⟩

/-- What is read of a reference behind its ampersand. -/
theorem reads_reference_iff : Reads reference text (some found) rest ↔
    (∃ inner, text = '#' :: inner ∧ Reads codedCharacter inner (some found) (';' :: rest)) ∨
      text.head? ≠ some '#' ∧ Reads namedEntity text (some found) (';' :: rest) := by
  unfold reference
  rw [reads_bind_iff]
  constructor
  · rintro ⟨coded, behind, skips, read⟩
    rcases reads_skip_iff.mp skips with ⟨rfl, start⟩ | ⟨rfl, start, rfl⟩
    · obtain rfl := Text.after?_eq_some_iff.mp start
      exact Or.inl ⟨behind, rfl, reads_ended_iff.mp read⟩
    · refine Or.inr ⟨fun marked => ?_, reads_ended_iff.mp read⟩
      obtain ⟨inner, rfl⟩ := List.head?_eq_some_iff.mp marked
      cases start
  · rintro (⟨inner, rfl, coded⟩ | ⟨unmarked, named⟩)
    · exact ⟨true, inner, reads_skip_iff.mpr (Or.inl ⟨rfl, rfl⟩), reads_ended_iff.mpr coded⟩
    · refine ⟨false, text, reads_skip_iff.mpr (Or.inr ⟨rfl, ?_, rfl⟩), reads_ended_iff.mpr named⟩
      cases text with
      | nil => rfl
      | cons c text =>
        rw [Text.after?, if_neg]
        rintro rfl
        exact unmarked rfl

/-- The code of a character is the same where a document is masked. -/
theorem codedCharacter_found (isMask : IsMask mask) (aligned : Aligned mask text masked)
    (read' : Reads codedCharacter masked (some found) rest') :
    ∃ rest, Reads codedCharacter text (some found) rest ∧ Alongside mask rest rest' := by
  obtain ⟨hexadecimal, behind', skips', value, rfl⟩ := reads_codedCharacter_iff.mp read'
  cases hexadecimal with
  | true =>
    obtain ⟨-, start⟩ | ⟨other, -⟩ := reads_skip_iff.mp skips'
    · obtain rfl := Text.after?_eq_some_iff.mp start
      rcases aligned.cons with ⟨behind, rfl, within⟩ | swapped
      · obtain ⟨digits, left⟩ := (within.within (by decide)).run isMask fun _ =>
          isWord_of_isHexDigit
        refine ⟨_, reads_codedCharacter_iff.mpr ⟨true, behind, ?_, ?_, rfl⟩, left⟩
        · exact reads_skip_iff.mpr (Or.inl ⟨rfl, rfl⟩)
        · exact digits ▸ value
      · exact absurd (swapped.mark isMask) (by decide)
    · cases other
  | false =>
    obtain ⟨_, behind, skips, rfl, alongside⟩ :=
      (tracks_skip isMask (by decide)).reads (Or.inl aligned) skips'
    obtain ⟨digits, left⟩ := alongside.run isMask stopsAtWords_isDigit
    exact ⟨_, reads_codedCharacter_iff.mpr ⟨false, behind, skips, digits ▸ value, rfl⟩, left⟩

/-- A masking colour is not read as the code of a character. -/
theorem not_reads_codedCharacter_of_swapped (isMask : IsMask mask)
    (swapped : Swapped mask text ('#' :: masked)) :
    ¬ Reads codedCharacter masked (some found) rest' := by
  intro read
  obtain ⟨word, rest, -, -, -, same⟩ := swapped
  obtain ⟨digits, shape, solid⟩ := isMask.shape
  have lettered := isMask.lettered
  obtain ⟨first, digits, rfl⟩ := List.exists_cons_of_ne_nil solid.some
  obtain ⟨behind, rfl⟩ : ∃ behind, masked = first :: behind := by
    rw [shape] at same
    exact ⟨_, (List.cons.inj same).2⟩
  rw [shape] at lettered
  simp only [List.tail_cons, List.head?_cons, Option.any_some, Bool.or_eq_false_iff,
    decide_eq_false_iff_not] at lettered
  obtain ⟨hexadecimal, left, skips, value, -⟩ := reads_codedCharacter_iff.mp read
  obtain ⟨-, start⟩ | ⟨rfl, -, rfl⟩ := reads_skip_iff.mp skips
  · exact lettered.1 (List.cons.inj (Text.after?_eq_some_iff.mp start)).1
  · have none : (first :: behind).takeWhile (codeDigit false) = [] :=
      List.takeWhile_cons_of_neg (by simp [codeDigit, lettered.2])
    rw [none] at value
    cases value

/-- **A reference of a masked text** is one of the text, and stands for the same. -/
theorem reference_found (isMask : IsMask mask) (aligned : Aligned mask text masked)
    (read' : Reads reference masked (some found) rest') :
    ∃ rest, Reads reference text (some found) rest ∧ Aligned mask rest rest' := by
  have ends {left : Text} (alongside : Alongside mask left (';' :: rest')) :
      ∃ rest, left = ';' :: rest ∧ Aligned mask rest rest' := by
    rcases alongside.cons with ⟨rest, rfl, behind⟩ | swapped
    · exact ⟨rest, rfl, behind.aligned (by decide)⟩
    · exact absurd (swapped.mark isMask) (by decide)
  rcases reads_reference_iff.mp read' with ⟨inner', rfl, coded'⟩ | ⟨unmarked, named'⟩
  · rcases aligned.cons with ⟨inner, rfl, behind⟩ | swapped
    · obtain ⟨left, coded, alongside⟩ :=
        codedCharacter_found isMask (behind.aligned (by decide)) coded'
      obtain ⟨rest, rfl, aligned'⟩ := ends alongside
      exact ⟨rest, reads_reference_iff.mpr (Or.inl ⟨inner, rfl, coded⟩), aligned'⟩
    · exact absurd coded' (not_reads_codedCharacter_of_swapped isMask swapped)
  · obtain ⟨starts, value, left'⟩ := reads_namedEntity_iff.mp named'
    rcases aligned.alongside.takeWhile isMask (p := isNameChar) (by decide) with
      ⟨_, -, swapped⟩ | ⟨same, alongside⟩
    · rw [← left'] at swapped
      exact absurd (swapped.mark isMask) (by decide)
    · rw [← left'] at alongside
      obtain ⟨rest, left, aligned'⟩ := ends alongside
      rw [← same] at starts value
      refine ⟨rest, reads_reference_iff.mpr (Or.inr ⟨fun marked => ?_, ?_⟩), aligned'⟩
      · obtain ⟨inner, rfl⟩ := List.head?_eq_some_iff.mp marked
        cases starts
      · exact reads_namedEntity_iff.mpr ⟨starts, value, left.symm⟩

/-- The value of an attribute is a part of the text. -/
theorem infix_of_rawAttribute {written : QualifiedName × Text × Text × Text}
    (read : Reads rawAttribute text written rest) : written.2.1 <:+: text := by
  unfold rawAttribute wordsWhile at read
  simp only [reads_bind_iff, reads_takeWhile_iff, reads_pure_iff] at read
  obtain ⟨_, _, place, _, _, name, _, _, gap, _, _, sign, _, _, gap', _, _, mark, _, _,
    ⟨_, _, ⟨rfl, rfl⟩, _, _, -, _, _, -, rfl, rfl⟩, _, _, -, _, _, -, rfl, -⟩ := read
  exact (List.takeWhile_prefix _).isInfix.trans (mark.suffix.trans <| gap'.suffix.trans <|
    sign.suffix.trans <| gap.suffix.trans <| name.suffix.trans place.suffix).isInfix

end Reader

/-! ### Words -/

/-- Reading goes on to the end. -/
def IsSound (tokens : List Token) : Prop := ∀ error, Token.fault error ∉ tokens

theorem not_isSound_fault {error : Error} : ¬ IsSound [.fault error] :=
  fun sound => sound error List.mem_cons_self

theorem expansions_cons {behind : Text} {c : Char} (plain : c ≠ '&') (rest : Text) :
    expansions entities behind (c :: rest) = expansions entities behind rest := by
  rw [expansions, if_pos (bne_iff_ne.mpr plain)]

/-- Words without ampersands are passed over. -/
theorem expansions_append {stretch behind : Text} (plain : ∀ c ∈ stretch, c ≠ '&') (rest : Text) :
    expansions entities behind (stretch ++ rest) = expansions entities behind rest := by
  induction stretch with
  | nil => rfl
  | cons c stretch ih =>
    obtain ⟨other, plain⟩ := List.forall_mem_cons.mp plain
    rw [List.cons_append, expansions_cons other, ih plain]

/-- A character that a reference stands for is passed over. -/
theorem expansions_of_character {inner behind : Text} {c : Char}
    (read : Reads reference inner (some (.character c)) rest) :
    expansions entities behind ('&' :: inner) = expansions entities behind rest := by
  obtain ⟨found, read, value, rfl⟩ := read
  rw [expansions, if_neg (by decide), read]
  simp only [value]

/-- Words that are read to their end have a reference behind each ampersand. -/
theorem exists_reference_of_isSound {inner behind : Text}
    (sound : IsSound (expansions entities behind ('&' :: inner))) :
    ∃ found rest, Reads reference inner (some found) rest := by
  rw [expansions, if_neg (by decide)] at sound
  cases read : reference inner with
  | error error =>
    rw [read] at sound
    exact absurd sound not_isSound_fault
  | ok found =>
    rw [read] at sound
    cases value : found.value with
    | none =>
      simp only [value] at sound
      exact absurd sound not_isSound_fault
    | some reference => exact ⟨reference, found.rest, found, read, value, rfl⟩

/-- A reference that is apart stands for a character. -/
theorem RefersApart.exists_character {inner : Text} {found : Reference}
    (apart : RefersApart ('&' :: inner)) (read : Reads reference inner (some found) rest) :
    ∃ c, found = .character c ∧ Char.isWord c = false := by
  obtain ⟨reading, read, value, -⟩ := read
  have kind := apart inner reading found (List.infix_refl _) read value
  cases found with
  | character c => exact ⟨c, rfl, by simpa [Reference.isApart] using kind⟩
  | entity name => cases kind

/-- No word and no masking colour holds an ampersand. -/
theorem ne_ampersand {c : Char} (kind : c = '#' ∨ Char.isWord c = true) : c ≠ '&' := by
  rintro rfl
  rcases kind with mark | word
  · exact absurd mark (by decide)
  · exact absurd word (by decide)

/-- **A text is read** word by word; behind an ampersand any end of it can be next. -/
theorem reference_induction {P : Text → Prop} (nil : P [])
    (apart : ∀ c text, Char.isWord c = false → c ≠ '&' → P text → P (c :: text))
    (refers : ∀ inner, (∀ rest, rest <:+ inner → P rest) → P ('&' :: inner))
    (word : ∀ word rest, IsSolid word → Text.wordEnds rest = true → P rest → P (word ++ rest))
    (text : Text) : P text := by
  induction size : text.length using Nat.strongRecOn generalizing text with
  | _ n ih =>
    subst size
    induction text using word_induction with
    | nil => exact nil
    | apart c text other _ =>
      by_cases ampersand : c = '&'
      · subst ampersand
        exact refers text fun rest within => ih _ (Nat.lt_succ_of_le within.length_le) rest rfl
      · exact apart c text other ampersand (ih _ (Nat.lt_succ_self _) text rfl)
    | word front rest solid ends _ =>
      refine word front rest solid ends (ih _ ?_ rest rfl)
      rw [List.length_append]
      exact Nat.lt_add_of_pos_left (List.length_pos_of_ne_nil solid.some)

/-- Words whose references are apart expand to nothing. -/
theorem expansions_maskWith (isMask : IsMask mask) {behind behind' : Text} (apart : RefersApart text)
    (sound : IsSound (expansions entities' behind' (maskWith mask text))) :
    expansions entities behind text = [] ∧
      expansions entities' behind' (maskWith mask text) = [] := by
  induction text using reference_induction with
  | nil =>
    rw [maskWith_nil, expansions, expansions]
    exact ⟨rfl, rfl⟩
  | apart c text other plain ih =>
    rw [maskWith_cons other, expansions_cons plain] at sound ⊢
    rw [expansions_cons plain]
    exact ih (apart.of_suffix (List.suffix_cons _ _)) sound
  | refers inner ih =>
    rw [maskWith_cons (by decide)] at sound ⊢
    obtain ⟨found, rest', read'⟩ := exists_reference_of_isSound sound
    obtain ⟨rest, read, ⟨rfl⟩⟩ := reference_found isMask ⟨rfl⟩ read'
    obtain ⟨c, rfl, -⟩ := apart.exists_character read
    rw [expansions_of_character read'] at sound ⊢
    rw [expansions_of_character read]
    exact ih rest read.suffix (apart.of_suffix (read.suffix.trans (List.suffix_cons _ _))) sound
  | word word rest solid ends ih =>
    have kept := maskWord_head isMask solid
    rw [maskWith_word solid ends,
      expansions_append fun c member => ne_ampersand (kept c member)] at sound ⊢
    rw [expansions_append fun c member => ne_ampersand (Or.inr (solid.solid c member))]
    exact ih (apart.of_suffix (List.suffix_append _ _)) sound

/-- **Words whose references are apart** expand to nothing, wherever they start. -/
theorem expansions_alongside (isMask : IsMask mask) {behind behind' : Text}
    (apart : RefersApart text) (alongside : Alongside mask text masked)
    (sound : IsSound (expansions entities' behind' masked)) :
    expansions entities behind text = [] ∧ expansions entities' behind' masked = [] := by
  rcases alongside with aligned | ⟨word, rest, solid, -, rfl, rfl⟩
  · rw [aligned.same] at sound ⊢
    exact expansions_maskWith isMask apart sound
  · have plain : ∀ c ∈ word, c ≠ '&' := fun c member => ne_ampersand (Or.inr (solid c member))
    rw [expansions_append plain] at sound ⊢
    rw [expansions_append plain]
    exact expansions_maskWith isMask (apart.of_suffix (List.suffix_append _ _)) sound

/-! ### Values -/

section

variable {deeper? deeper'? : Option (Nat → Text → Text → Except Error (Text × Nat))}
  {count : Nat} {behind behind' inner : Text} {c : Char}

theorem map_eq_ok_iff {α β : Type} {first : Except Error α} {change : α → β} {result : β} :
    first.map change = .ok result ↔ ∃ found, first = .ok found ∧ change found = result := by
  cases first with
  | error error => exact ⟨nofun, nofun⟩
  | ok found =>
    refine ⟨fun same => ⟨found, rfl, Except.ok.inj same⟩, ?_⟩
    rintro ⟨_, same, rfl⟩
    cases same
    rfl

/-- Outside of references a value is decoded character by character: a line end is one space. -/
theorem decodeWith_cons (other : c ≠ '&') :
    decodeWith entities levels deeper? count behind (c :: text) =
      if c = '\r' ∧ text.head? = some '\n' then
        decodeWith entities levels deeper? count behind text
      else (decodeWith entities levels deeper? count behind text).map fun others =>
        (valueChar c :: others.1, others.2) := by
  have feed (rest : Text) : decodeWith entities levels deeper? count behind ('\n' :: rest) =
      (decodeWith entities levels deeper? count behind rest).map fun others =>
        (' ' :: others.1, others.2) := by
    rw [decodeWith]
    · rfl
    · exact fun same => absurd same (by decide)
    · exact fun _ same _ => absurd same (by decide)
  split
  · next line =>
    obtain ⟨rfl, line⟩ := line
    obtain ⟨rest, rfl⟩ := List.head?_eq_some_iff.mp line
    rw [feed, decodeWith]
  · next line =>
    rw [decodeWith]
    · exact other
    · rintro rest rfl rfl
      exact line ⟨rfl, rfl⟩

/-- A stretch without white space and references is kept. -/
theorem decodeWith_append {stretch : Text}
    (kept : ∀ c ∈ stretch, c ≠ '&' ∧ Char.isSpace c = false) (rest : Text) :
    decodeWith entities levels deeper? count behind (stretch ++ rest) =
      (decodeWith entities levels deeper? count behind rest).map fun others =>
        (stretch ++ others.1, others.2) := by
  induction stretch with
  | nil =>
    rw [List.nil_append]
    cases decodeWith entities levels deeper? count behind rest <;> rfl
  | cons c stretch ih =>
    obtain ⟨⟨other, dark⟩, kept⟩ := List.forall_mem_cons.mp kept
    rw [List.cons_append, decodeWith_cons other, if_neg, ih kept, valueChar, dark,
      if_neg Bool.false_ne_true]
    · cases decodeWith entities levels deeper? count behind rest <;> rfl
    · rintro ⟨rfl, -⟩
      exact absurd dark (by decide)

/-- A character that a reference in a value stands for. -/
theorem decodeWith_of_character
    (read : Reads reference inner (some (.character c)) rest) :
    decodeWith entities levels deeper? count behind ('&' :: inner) =
      if levels < deepestReference && c = '<' then
        .error (.here .unescapedBracket ('&' :: inner ++ behind))
      else
        (decodeWith entities levels deeper? count behind rest).map fun others =>
          ((if levels < deepestReference then valueChar c else c) :: others.1, others.2) := by
  obtain ⟨found, read, value, rfl⟩ := read
  rw [decodeWith, read]
  simp only [value]

/-- A value that can be decoded has a reference behind each ampersand. -/
theorem exists_reference_of_decodeWith {decoded : Text × Nat}
    (done : decodeWith entities levels deeper? count behind ('&' :: inner) = .ok decoded) :
    ∃ found rest, Reads reference inner (some found) rest := by
  rw [decodeWith] at done
  cases read : reference inner with
  | error error => rw [read] at done; cases done
  | ok found =>
    rw [read] at done
    cases value : found.value with
    | none => simp only [value] at done; cases done
    | some reference => exact ⟨reference, found.rest, found, read, value, rfl⟩

/-- No word and no masking colour holds white space. -/
theorem not_isSpace_of_solid (kind : c = '#' ∨ Char.isWord c = true) : Char.isSpace c = false := by
  rw [← Bool.not_eq_true]
  intro space
  rcases kind with rfl | word
  · exact absurd space (by decide)
  · rw [isWord_of_isSpace space] at word
    cases word

/-- A space belongs to no word. -/
theorem apart_valueChar (apart : Char.isWord c = false) : Char.isWord (valueChar c) = false := by
  unfold valueChar
  split
  · decide
  · exact apart

/-- What a masked value is decoded to. -/
structure DecodedAs (mask text : Text) (decoded decoded' : Text × Nat) : Prop where
  value : decoded'.1 = maskWith mask decoded.1
  count : decoded'.2 = decoded.2
  ends : Text.wordEnds text = true → Text.wordEnds decoded.1 = true

/-- A character of no word is put in front of both. -/
theorem DecodedAs.cons {decoded decoded' : Text × Nat} (both : DecodedAs mask text decoded decoded')
    (apart : Char.isWord c = false) (whole : Text) :
    DecodedAs mask whole (c :: decoded.1, decoded.2) (c :: decoded'.1, decoded'.2) := by
  refine ⟨?_, both.count, fun _ => by simp [Text.wordEnds, apart]⟩
  rw [maskWith_cons apart, both.value]

/-- A reference in a masked value, and what is decoded behind it. -/
theorem exists_character_of_decodeWith (isMask : IsMask mask) (apart : RefersApart ('&' :: inner))
    {decoded' : Text × Nat} (done : decodeWith entities' levels deeper'? count behind'
      ('&' :: maskWith mask inner) = .ok decoded') :
    ∃ c rest others', Char.isWord c = false ∧ rest <:+ inner ∧
      decodeWith entities' levels deeper'? count behind' (maskWith mask rest) = .ok others' ∧
      decoded' = (c :: others'.1, others'.2) ∧
      ∀ others, decodeWith entities levels deeper? count behind rest = .ok others →
        decodeWith entities levels deeper? count behind ('&' :: inner) =
          .ok (c :: others.1, others.2) := by
  obtain ⟨found, rest', read'⟩ := exists_reference_of_decodeWith done
  obtain ⟨rest, read, ⟨rfl⟩⟩ := reference_found isMask ⟨rfl⟩ read'
  obtain ⟨c, rfl, kind⟩ := apart.exists_character read
  rw [decodeWith_of_character read'] at done
  split at done
  · cases done
  · next allowed =>
    obtain ⟨others', inner', rfl⟩ := map_eq_ok_iff.mp done
    refine ⟨_, rest, others', ?_, read.suffix, inner', rfl, fun others inner => ?_⟩
    · split
      · exact apart_valueChar kind
      · exact kind
    · rw [decodeWith_of_character read, if_neg allowed, inner]
      rfl

/-- **A masked value** is decoded to the value masked, if its references are apart. -/
theorem decodeWith_masked (isMask : IsMask mask) (apart : RefersApart text) {decoded' : Text × Nat}
    (done : decodeWith entities' levels deeper'? count behind' (maskWith mask text) =
      .ok decoded') :
    ∃ decoded, decodeWith entities levels deeper? count behind text = .ok decoded ∧
      DecodedAs mask text decoded decoded' := by
  induction text using reference_induction generalizing decoded' with
  | nil =>
    rw [maskWith_nil, decodeWith] at done
    obtain rfl := Except.ok.inj done
    exact ⟨([], count), by rw [decodeWith], maskWith_nil.symm, rfl, fun _ => rfl⟩
  | apart c text other plain ih =>
    have ih {decoded' : Text × Nat} := @ih (apart.of_suffix (List.suffix_cons _ _)) decoded'
    have head : (maskWith mask text).head? = some '\n' ↔ text.head? = some '\n' :=
      (Alongside.head?_eq_iff isMask (by decide) (by decide) (Or.inl ⟨rfl⟩)).symm
    rw [maskWith_cons other, decodeWith_cons plain] at done
    rw [decodeWith_cons plain]
    simp only [head] at done
    split at done
    · next line =>
      rw [if_pos line]
      obtain ⟨others, inner, both⟩ := ih done
      refine ⟨others, inner, both.value, both.count, fun _ => both.ends ?_⟩
      obtain ⟨rest, rfl⟩ := List.head?_eq_some_iff.mp line.2
      rfl
    · next line =>
      rw [if_neg line]
      obtain ⟨others', inner', rfl⟩ := map_eq_ok_iff.mp done
      obtain ⟨others, inner, both⟩ := ih inner'
      exact ⟨_, map_eq_ok_iff.mpr ⟨others, inner, rfl⟩, both.cons (apart_valueChar other) _⟩
  | refers inner ih =>
    rw [maskWith_cons (by decide)] at done
    obtain ⟨c, rest, others', kind, within, inner', rfl, put⟩ :=
      exists_character_of_decodeWith isMask apart done
    obtain ⟨others, inner, both⟩ :=
      ih rest within (apart.of_suffix (within.trans (List.suffix_cons _ _))) inner'
    exact ⟨_, put others inner, both.cons kind _⟩
  | word word rest solid ends ih =>
    have plain {c : Char} (kind : c = '#' ∨ Char.isWord c = true) :=
      And.intro (ne_ampersand kind) (not_isSpace_of_solid kind)
    rw [maskWith_word solid ends,
      decodeWith_append fun c member => plain (maskWord_head isMask solid c member)] at done
    rw [decodeWith_append fun c member => plain (Or.inr (solid.solid c member))]
    obtain ⟨others', inner', rfl⟩ := map_eq_ok_iff.mp done
    obtain ⟨others, inner, both⟩ := ih (apart.of_suffix (List.suffix_append _ _)) inner'
    refine ⟨_, map_eq_ok_iff.mpr ⟨others, inner, rfl⟩, ?_, both.count, fun ends' => ?_⟩
    · rw [maskWith_word solid (both.ends ends), both.value]
    · obtain ⟨first, others, rfl⟩ := List.exists_cons_of_ne_nil solid.some
      have kind := solid.solid first List.mem_cons_self
      rw [List.cons_append, Text.wordEnds, kind] at ends'
      cases ends'

/-- A value of a masked document is decoded to the value of the document, masked. -/
theorem decode_masked (isMask : IsMask mask) (apart : RefersApart text) {decoded' : Text × Nat}
    (done : decode entities' levels count behind' (maskWith mask text) = .ok decoded') :
    ∃ decoded, decode entities levels count behind text = .ok (decoded, decoded'.2) ∧
      decoded'.1 = maskWith mask decoded := by
  cases levels with
  | zero =>
    obtain ⟨decoded, done, both⟩ := decodeWith_masked isMask apart done
    exact ⟨decoded.1, both.count ▸ done, both.value⟩
  | succ levels =>
    obtain ⟨decoded, done, both⟩ := decodeWith_masked isMask apart done
    exact ⟨decoded.1, both.count ▸ done, both.value⟩

end

end IconComponents.Xml
