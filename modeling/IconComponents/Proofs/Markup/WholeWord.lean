/-
**The word `currentColor` and its places.**

A text is masked word by word along one scan. Here the same is said by places: the text in front, the
word, and the text behind, with no character of a word on either side.

* `CurrentColorAt` — a place of the word;
* `Respells` — the word is spelled as usual at each of its places, and nothing else changes;
* `mentionsCurrentColor_iff`, `respells_maskWith` — the scan finds exactly these places;
* `mask_content` — when a file is masked, and that turning the colour back undoes it.
-/

import IconComponents.Content
import IconComponents.Proofs.Markup.Mask

namespace IconComponents

open Recogniser

variable {color mask text before word after : Text} {c : Char}

/-! ### Places -/

/-- A place of `currentColor` as a whole word, in some letter case. -/
structure CurrentColorAt (text before word after : Text) : Prop where
  split : text = before ++ word ++ after
  named : Text.lower word = Text.lower currentColor
  front : ∀ c ∈ before.getLast?, Char.isWord c = false
  back : ∀ c ∈ after.head?, Char.isWord c = false

/-- The text has `currentColor` somewhere as a whole word. -/
def HasCurrentColor (text : Text) : Prop :=
  ∃ before word after, CurrentColorAt text before word after

/-- A place within the word `currentColor`. -/
def CoversCurrentColor (text : Text) (place : Nat) : Prop :=
  ∃ before word after, CurrentColorAt text before word after ∧
    before.length ≤ place ∧ place < before.length + word.length

/-- The text with every whole word `currentColor` spelled as usual, and otherwise unchanged. -/
structure Respells (text respelled : Text) : Prop where
  length : respelled.length = text.length
  spelled : ∀ before word after, CurrentColorAt text before word after →
    (respelled.drop before.length).take word.length = currentColor
  kept : ∀ place, ¬ CoversCurrentColor text place → respelled[place]? = text[place]?

/-- A text occurs in another one, in some letter case. -/
def OccursInSomeCase (needle text : Text) : Prop :=
  ∃ piece, piece <:+: text ∧ Text.sameIgnoringCase piece needle = true

theorem wordEnds_iff : Text.wordEnds after = true ↔ ∀ c ∈ after.head?, Char.isWord c = false := by
  cases after <;> simp [Text.wordEnds]

theorem CurrentColorAt.isCurrentColor (found : CurrentColorAt text before word after) :
    isCurrentColor word = true := beq_iff_eq.mpr found.named

theorem CurrentColorAt.isSolid (found : CurrentColorAt text before word after) : IsSolid word :=
  isSolid_of_isCurrentColor found.isCurrentColor

/-! ### Words between other characters -/

/-- **A text is scanned in pieces** also at a word that stands alone. -/
theorem scan_standing (front : ∀ c ∈ before.getLast?, Char.isWord c = false)
    (solid : IsSolid word) (ends : Text.wordEnds after = true) :
    wordRun.scan (before ++ word ++ after) =
      wordRun.scan before ++ .hit word :: wordRun.scan after := by
  obtain ⟨hit, found, value, behind⟩ := wordRun_append solid ends
  rcases List.eq_nil_or_concat' before with rfl | ⟨ahead, last, rfl⟩
  · rw [List.nil_append, scan_of_some found, value, behind, scan_nil, List.nil_append]
  · have stops := stopsAt_apart (front last (by simp))
    have shape : ahead ++ [last] ++ word ++ after = ahead ++ last :: (word ++ after) := by simp
    rw [shape, scan_append_cons stops, scan_of_some found, value, behind, scan_append_cons stops]
    simp

/-- A word that stands alone is masked by itself. -/
theorem maskWith_standing (front : ∀ c ∈ before.getLast?, Char.isWord c = false)
    (solid : IsSolid word) (ends : Text.wordEnds after = true) :
    maskWith color (before ++ word ++ after) =
      maskWith color before ++ maskWord color word ++ maskWith color after := by
  rw [maskWith, rewrite, scan_standing front solid ends, List.flatMap_append, List.flatMap_cons,
    ← List.append_assoc]
  rfl

theorem mentionsCurrentColor_nil : mentionsCurrentColor [] = false := by
  rw [mentionsCurrentColor, hits_nil]
  rfl

/-- Whether a text with a word in it mentions `currentColor`. -/
theorem mentionsCurrentColor_standing (front : ∀ c ∈ before.getLast?, Char.isWord c = false)
    (solid : IsSolid word) (ends : Text.wordEnds after = true) :
    mentionsCurrentColor (before ++ word ++ after) =
      (mentionsCurrentColor before || (isCurrentColor word || mentionsCurrentColor after)) := by
  rw [mentionsCurrentColor, hits, scan_standing front solid ends, List.filterMap_append,
    List.any_append]
  rfl

/-- **The scan finds the word exactly where it has a place.** -/
theorem mentionsCurrentColor_iff : mentionsCurrentColor text = true ↔ HasCurrentColor text := by
  constructor
  · intro mentions
    induction text using word_induction with
    | nil =>
      rw [mentionsCurrentColor_nil] at mentions
      cases mentions
    | apart c text apart ih =>
      rw [mentionsCurrentColor_cons apart] at mentions
      obtain ⟨before, word, after, found⟩ := ih mentions
      refine ⟨c :: before, word, after, by rw [found.split]; rfl, found.named, ?_, found.back⟩
      intro last isLast
      cases before with
      | nil => rwa [← Option.some.inj isLast]
      | cons first before => exact found.front last isLast
    | word word rest solid ends ih =>
      rw [mentionsCurrentColor_word solid ends, Bool.or_eq_true] at mentions
      rcases mentions with named | later
      · exact ⟨[], word, rest, rfl, lower_of_isCurrentColor named, by simp, wordEnds_iff.mp ends⟩
      · obtain ⟨before, other, after, found⟩ := ih later
        refine ⟨word ++ before, other, after, by simp [found.split], found.named, ?_, found.back⟩
        cases before with
        | nil =>
          obtain ⟨some, letters⟩ := found.isSolid
          obtain ⟨first, others, rfl⟩ := List.exists_cons_of_ne_nil some
          have letter := letters first List.mem_cons_self
          rw [found.split, List.nil_append, List.cons_append, Text.wordEnds, letter] at ends
          cases ends
        | cons first before =>
          rw [List.getLast?_append_cons]
          exact found.front
  · rintro ⟨before, word, after, found⟩
    rw [found.split, mentionsCurrentColor_standing found.front found.isSolid
      (wordEnds_iff.mpr found.back), found.isCurrentColor, Bool.true_or, Bool.or_true]

/-! ### The masked text -/

/-- **The word is gone** from a masked text. -/
theorem not_mentions_maskWith {digits : Text} (solid : IsSolid digits)
    (other : isCurrentColor digits = false) (text : Text) :
    mentionsCurrentColor (maskWith ('#' :: digits) text) = false := by
  induction text using word_induction with
  | nil => rw [maskWith_nil, mentionsCurrentColor_nil]
  | apart c text apart ih => rw [maskWith_cons apart, mentionsCurrentColor_cons apart, ih]
  | word word rest solid' ends ih =>
    have ends' : Text.wordEnds (maskWith ('#' :: digits) rest) = true := wordEnds_maskWith ends
    rw [maskWith_word solid' ends, maskWord]
    split
    · rw [List.cons_append, mentionsCurrentColor_cons (by decide),
        mentionsCurrentColor_word solid ends', other, ih, Bool.or_false]
    · next unnamed =>
      rw [mentionsCurrentColor_word solid' ends', ih, Bool.or_false, ← Bool.not_eq_true]
      exact unnamed

theorem length_maskWith_currentColor (text : Text) :
    (maskWith currentColor text).length = text.length := by
  have same := congrArg List.length (lower_maskWith_currentColor text)
  rwa [Text.lower, Text.lower, List.length_map, List.length_map] at same

/-- A character of a word lies in a word that stands alone. -/
theorem exists_standing (letter : Char.isWord c = true) (before after : Text) :
    ∃ front ahead behind back, before = front ++ ahead ∧ after = behind ++ back ∧
      IsSolid (ahead ++ c :: behind) ∧ (∀ c ∈ front.getLast?, Char.isWord c = false) ∧
        Text.wordEnds back = true := by
  refine ⟨(before.reverse.dropWhile Char.isWord).reverse,
    (before.reverse.takeWhile Char.isWord).reverse, after.takeWhile Char.isWord,
    after.dropWhile Char.isWord, ?_, List.takeWhile_append_dropWhile.symm, ⟨by simp, ?_⟩, ?_,
    wordEnds_dropWhile after⟩
  · rw [← List.reverse_append, List.takeWhile_append_dropWhile, List.reverse_reverse]
  · intro other member
    rcases List.mem_append.mp member with ahead | behind
    · exact List.mem_takeWhile_imp (List.mem_reverse.mp ahead)
    · rcases List.mem_cons.mp behind with rfl | behind
      · exact letter
      · exact List.mem_takeWhile_imp behind
  · intro last isLast
    rw [List.getLast?_reverse] at isLast
    exact wordEnds_iff.mp (wordEnds_dropWhile before.reverse) last isLast

/-- **Masking by the word itself respells it.** -/
theorem respells_maskWith (text : Text) : Respells text (maskWith currentColor text) := by
  refine ⟨length_maskWith_currentColor text, fun before word after found => ?_,
    fun place free => ?_⟩
  · have size : word.length = currentColor.length := by
      have same := congrArg List.length found.named
      rwa [Text.lower, Text.lower, List.length_map, List.length_map] at same
    rw [found.split, maskWith_standing found.front found.isSolid (wordEnds_iff.mpr found.back),
      maskWord, if_pos found.isCurrentColor, List.append_assoc,
      List.drop_left' (length_maskWith_currentColor before), size, List.take_left']
    rfl
  · rcases Nat.lt_or_ge place text.length with inside | outside
    · obtain ⟨before, c, after, rfl, rfl⟩ : ∃ before c after, text = before ++ c :: after ∧
          before.length = place :=
        ⟨text.take place, text[place], text.drop (place + 1), by simp, by simp; omega⟩
      have here : ∀ front back : Text, front.length = before.length →
          (front ++ c :: back)[before.length]? = some c := by
        intro front back same
        rw [← same, List.getElem?_append_right (Nat.le_refl _), Nat.sub_self,
          List.getElem?_cons_zero]
      rw [here before after rfl]
      cases letter : Char.isWord c with
      | false =>
        rw [maskWith_append_cons letter]
        exact here _ _ (length_maskWith_currentColor before)
      | true =>
        obtain ⟨front, ahead, behind, back, rfl, rfl, solid, apart, ends⟩ :=
          exists_standing letter before after
        have shape : front ++ ahead ++ c :: (behind ++ back) =
            front ++ (ahead ++ c :: behind) ++ back := by simp
        have unnamed : ¬ isCurrentColor (ahead ++ c :: behind) = true := by
          intro named
          refine free ⟨front, _, back, ⟨shape, lower_of_isCurrentColor named, apart,
            wordEnds_iff.mp ends⟩, by simp, ?_⟩
          simp only [List.length_append, List.length_cons]
          omega
        rw [shape, maskWith_standing apart solid ends, maskWord, if_neg unnamed]
        have whole := here (maskWith currentColor front ++ ahead)
          (behind ++ maskWith currentColor back) (by simp [length_maskWith_currentColor])
        simpa using whole
    · rw [List.getElem?_eq_none outside,
        List.getElem?_eq_none (by rw [length_maskWith_currentColor]; exact outside)]

/-! ### Colours and files -/

/-- A masking colour occurs in some case if it is in the lower-case text. -/
theorem occursInSomeCase_iff {green : Nat} (byte : green < 256) :
    OccursInSomeCase (maskColor green) text ↔ maskColor green <:+: Text.lower text := by
  constructor
  · rintro ⟨piece, within, same⟩
    rw [Text.sameIgnoringCase, beq_iff_eq, lower_maskColor byte] at same
    rw [← same]
    exact within.map Char.toLower
  · rintro ⟨ahead, behind, split⟩
    obtain ⟨front, back, rfl, frontEq, -⟩ := List.map_eq_append_iff.mp split.symm
    obtain ⟨front, piece, rfl, -, pieceEq⟩ := List.map_eq_append_iff.mp frontEq
    refine ⟨piece, List.infix_append front piece back, ?_⟩
    rw [Text.sameIgnoringCase, beq_iff_eq, lower_maskColor byte]
    exact pieceEq

/-- **A text is masked** if it has the word and does not use all colours. -/
theorem exists_mask?_iff : (∃ masked mask, mask? text = some (masked, mask)) ↔
    HasCurrentColor text ∧ ∃ green < 256, ¬ OccursInSomeCase (maskColor green) text := by
  constructor
  · rintro ⟨masked, mask, masks⟩
    have found := mask?_eq_some masks
    obtain ⟨green, byte, rfl⟩ := found.color
    exact ⟨mentionsCurrentColor_iff.mp found.mentions, green, byte,
      fun used => found.unused ((occursInSomeCase_iff byte).mp used)⟩
  · rintro ⟨mentioned, green, byte, unused⟩
    cases masks : mask? text with
    | some pair => exact ⟨pair.1, pair.2, rfl⟩
    | none =>
      rcases mask?_eq_none masks with silent | used
      · rw [mentionsCurrentColor_iff.mpr mentioned] at silent
        cases silent
      · obtain ⟨⟨ahead, behind⟩, cut⟩ := Option.isSome_iff_exists.mp (used green byte)
        refine absurd ((occursInSomeCase_iff byte).mpr ?_) unused
        exact ⟨ahead, behind, (Text.eq_append_of_cut? cut).symm⟩

/-- **Turning the colour back** leaves the text with its word respelled. -/
theorem Masks.undone {masked : Text} (masks : Masks text masked mask) :
    ¬ OccursInSomeCase mask text ∧ ¬ HasCurrentColor masked ∧
      Respells text (Text.replaceAll mask currentColor masked) := by
  have isMask := masks.isMask
  have back := unmask_maskWith isMask masks.not_infix
  obtain ⟨⟨green, byte, rfl⟩, unused, -, rfl⟩ := masks
  refine ⟨fun used => unused ((occursInSomeCase_iff byte).mp used), fun left => ?_, ?_⟩
  · have other : isCurrentColor (maskColor green).tail = false := by
      rw [← Bool.not_eq_true]
      intro named
      have first : some 'f' = (Text.lower currentColor).head? :=
        congrArg List.head? (lower_of_isCurrentColor named)
      exact absurd first (by decide)
    obtain ⟨digits, shape, solid⟩ := isMask.shape
    rw [shape, List.tail_cons] at other
    have silent := not_mentions_maskWith solid other text
    rw [← shape, mentionsCurrentColor_iff.mpr left] at silent
    cases silent
  · rw [← unmask, back]
    exact respells_maskWith text

theorem text?_ofBytes {bytes : ByteArray} :
    (Content.ofBytes bytes).text? = some text ↔ bytes = (String.ofList text).toUTF8 := by
  unfold Content.ofBytes String.fromUTF8?
  by_cases valid : bytes.IsValidUTF8
  · rw [dif_pos valid]
    simp only [Content.text?, Option.some.injEq]
    constructor
    · rintro rfl
      rw [String.ofList_toList]
      rfl
    · rintro rfl
      exact String.toList_ofList
  · rw [dif_neg valid]
    refine iff_of_false (by simp [Content.text?]) ?_
    rintro rfl
    exact valid (String.ofList text).isValidUTF8

/-- **Masking a file.** Bytes are masked exactly if they encode a text that has `currentColor` as a
whole word, in some letter case, and that leaves one of the 256 colours unused in every letter case.
The colour that masks is then one of these and unused, the word is gone, and the colour turned back
gives the text with the word respelled at each of its places. -/
theorem mask_content (bytes : ByteArray) :
    ((∃ masked mask, (Content.ofBytes bytes).text?.bind mask? = some (masked, mask)) ↔
      ∃ text, bytes = (String.ofList text).toUTF8 ∧ HasCurrentColor text ∧
        ∃ green < 256, ¬ OccursInSomeCase (maskColor green) text) ∧
    ∀ masked mask, (Content.ofBytes bytes).text?.bind mask? = some (masked, mask) →
      ∃ text, bytes = (String.ofList text).toUTF8 ∧ (∃ green < 256, mask = maskColor green) ∧
        ¬ OccursInSomeCase mask text ∧ ¬ HasCurrentColor masked ∧
          Respells text (Text.replaceAll mask currentColor masked) := by
  refine ⟨⟨?_, ?_⟩, ?_⟩
  · rintro ⟨masked, mask, masks⟩
    obtain ⟨text, read, masks⟩ := Option.bind_eq_some_iff.mp masks
    exact ⟨text, text?_ofBytes.mp read, exists_mask?_iff.mp ⟨masked, mask, masks⟩⟩
  · rintro ⟨text, encoded, maskable⟩
    obtain ⟨masked, mask, masks⟩ := exists_mask?_iff.mpr maskable
    exact ⟨masked, mask, Option.bind_eq_some_iff.mpr ⟨text, text?_ofBytes.mpr encoded, masks⟩⟩
  · intro masked mask masks
    obtain ⟨text, read, masks⟩ := Option.bind_eq_some_iff.mp masks
    have found := mask?_eq_some masks
    exact ⟨text, text?_ofBytes.mp read, found.color, found.undone⟩

/-- The first colour is used, though in other letters, so the second one masks. -/
example : mask? "<path fill=\"#FE00FE\" stroke=\"CurrentColor\"/>".toList =
    some ("<path fill=\"#FE00FE\" stroke=\"#fe01fe\"/>".toList, "#fe01fe".toList) := by
  decide +kernel

end IconComponents
