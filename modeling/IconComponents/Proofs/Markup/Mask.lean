/-
**Masking the surrounding colour.**

A text is masked word by word, so what stands between characters that belong to no word is masked by
itself. The masking colour is a mark and six word characters, and it does not occur in the text;
hence it occurs in the masked text exactly where `currentColor` was, and turning it back gives the
text in which that word is spelled as usual.

* `maskWith_append_cons` — a text is masked in pieces;
* `unmask_maskWith` — turning the colour back undoes masking;
* `maskWith_eq_mask_iff` — a value becomes the masking colour exactly if it is `currentColor`;
* `mask?_eq_some` — the colour that masks is not used.
-/

import IconComponents.Markup.CurrentColor
import IconComponents.Proofs.Text.Scan

namespace IconComponents

open Recogniser

variable {color mask word rest text value before after : Text} {c : Char}

/-! ### Words -/

/-- A text that is not empty and within one word. -/
structure IsSolid (word : Text) : Prop where
  some : word ≠ []
  solid : ∀ c ∈ word, Char.isWord c = true

theorem wordRun_of_apart (apart : Char.isWord c = false) (text : Text) :
    wordRun (c :: text) = none := by
  rw [wordRun, apart, if_neg Bool.false_ne_true]

/-- A word is read up to its end. -/
theorem wordRun_append (solid : IsSolid word) (ends : Text.wordEnds rest = true) :
    ∃ hit, wordRun (word ++ rest) = some hit ∧ hit.value = word ∧ hit.rest = rest := by
  obtain ⟨nonempty, solid⟩ := solid
  cases word with
  | nil => exact absurd rfl nonempty
  | cons first word =>
    obtain ⟨start, solid⟩ := List.forall_mem_cons.mp solid
    have split : (word ++ rest).takeWhile Char.isWord = word ∧
        (word ++ rest).dropWhile Char.isWord = rest := by
      rw [List.takeWhile_append_of_pos solid, List.dropWhile_append_of_pos solid]
      cases rest with
      | nil => simp
      | cons c rest =>
        rw [Text.wordEnds, Bool.not_eq_true'] at ends
        simp [ends]
    rw [List.cons_append, wordRun]
    simp only [start, if_true, split]
    exact ⟨_, rfl, rfl, rfl⟩

theorem wordEnds_dropWhile (text : Text) :
    Text.wordEnds (text.dropWhile Char.isWord) = true := by
  have head := List.head?_dropWhile_not Char.isWord text
  cases rest : text.dropWhile Char.isWord with
  | nil => rfl
  | cons next rest =>
    rw [rest, List.head?_cons] at head
    simpa [Text.wordEnds] using head

theorem exists_word_of_wordRun {hit : Hit Text text} (found : wordRun text = some hit) :
    IsSolid hit.value ∧ Text.wordEnds hit.rest = true ∧ text = hit.value ++ hit.rest := by
  cases text with
  | nil => cases found
  | cons c text =>
    rw [wordRun] at found
    split at found
    · next start =>
      cases found
      refine ⟨⟨List.cons_ne_nil _ _, List.forall_mem_cons.mpr ⟨start, fun _ member =>
        List.mem_takeWhile_imp member⟩⟩, ?_, ?_⟩
      · exact wordEnds_dropWhile text
      · rw [List.cons_append, List.takeWhile_append_dropWhile]
    · cases found

/-- No word reaches a character that belongs to none. -/
theorem stopsAt_apart (apart : Char.isWord c = false) : wordRun.StopsAt c where
  head := wordRun_of_apart apart
  refused first text behind refused := by
    cases kind : Char.isWord first with
    | false => exact wordRun_of_apart kind _
    | true =>
      rw [wordRun, if_pos kind] at refused
      cases refused
  taken text hit behind found := by
    obtain ⟨solid, ends, split⟩ := exists_word_of_wordRun found
    have ends' : Text.wordEnds (hit.rest ++ c :: behind) = true := by
      cases rest : hit.rest with
      | nil => simpa [Text.wordEnds] using apart
      | cons next others =>
        rw [rest] at ends
        exact ends
    have whole : text ++ c :: behind = hit.value ++ (hit.rest ++ c :: behind) := by
      rw [← List.append_assoc, ← split]
    rw [whole]
    exact wordRun_append solid ends'

/-- **Induction along the words of a text.** -/
@[elab_as_elim]
theorem word_induction {motive : Text → Prop} (nil : motive [])
    (apart : ∀ c text, Char.isWord c = false → motive text → motive (c :: text))
    (word : ∀ word rest, IsSolid word → Text.wordEnds rest = true → motive rest →
      motive (word ++ rest)) (text : Text) : motive text := by
  induction text using scan_induction wordRun with
  | nil => exact nil
  | plain c text refused ih =>
    refine apart c text ?_ ih
    rw [← Bool.not_eq_true]
    intro start
    rw [wordRun, if_pos start] at refused
    cases refused
  | hit text hit found ih =>
    obtain ⟨solid, ends, split⟩ := exists_word_of_wordRun found
    rw [split]
    exact word _ _ solid ends ih

/-! ### Masking -/

/-- What a word becomes. -/
def maskWord (color word : Text) : Text := if isCurrentColor word then color else word

@[simp] theorem maskWith_nil : maskWith color [] = [] := rewrite_nil

theorem maskWith_cons (apart : Char.isWord c = false) (text : Text) :
    maskWith color (c :: text) = c :: maskWith color text :=
  rewrite_of_none (wordRun_of_apart apart text)

theorem maskWith_word (solid : IsSolid word) (ends : Text.wordEnds rest = true) :
    maskWith color (word ++ rest) = maskWord color word ++ maskWith color rest := by
  obtain ⟨hit, found, value, behind⟩ := wordRun_append solid ends
  rw [maskWith, rewrite_of_some found, value, behind]
  rfl

theorem wordEnds_maskWith (ends : Text.wordEnds text = true) :
    Text.wordEnds (maskWith color text) = true := by
  cases text with
  | nil => rw [maskWith_nil]; rfl
  | cons c text =>
    have apart : Char.isWord c = false := by simpa [Text.wordEnds] using ends
    rwa [maskWith_cons apart]

/-- **A text is masked in pieces** between characters that belong to no word. -/
theorem maskWith_append_cons (apart : Char.isWord c = false) (before after : Text) :
    maskWith color (before ++ c :: after) = maskWith color before ++ c :: maskWith color after :=
  rewrite_append_cons (stopsAt_apart apart) before after

/-- The letters of `currentColor` in any letter case. -/
theorem letter_cases (letter : c.toLower ∈ Text.lower currentColor) :
    (c.isUpper = true ∧ 65 ≤ c.toNat ∧ c.toNat ≤ 90) ∨ c ∈ Text.lower currentColor := by
  unfold Char.toLower at letter
  split at letter
  · next capital =>
    exact Or.inl ⟨decide_eq_true capital, UInt32.le_iff_toNat_le.mp capital.1,
      UInt32.le_iff_toNat_le.mp capital.2⟩
  · exact Or.inr letter

theorem lower_of_isCurrentColor (named : isCurrentColor word = true) :
    Text.lower word = Text.lower currentColor := by
  rwa [isCurrentColor, Text.sameIgnoringCase, beq_iff_eq] at named

theorem isCurrentColor_currentColor : isCurrentColor currentColor = true := beq_self_eq_true _

/-- `currentColor` is a word in any letter case. -/
theorem isSolid_of_isCurrentColor (named : isCurrentColor word = true) : IsSolid word := by
  have lower := lower_of_isCurrentColor named
  refine ⟨?_, fun c member => ?_⟩
  · rintro rfl
    exact absurd lower (by decide)
  · have letter : c.toLower ∈ Text.lower currentColor := by
      rw [← lower]
      exact List.mem_map_of_mem member
    rcases letter_cases letter with ⟨upper, -, high⟩ | small
    · rw [Char.isWord, if_pos (by omega)]
      change (c.isUpper || c.isLower || c.isDigit || decide (c = '_')) = true
      rw [upper]
      rfl
    · have letters : (Text.lower currentColor).all Char.isWord = true := by decide
      exact List.all_eq_true.mp letters c small

theorem maskWith_of_isCurrentColor (named : isCurrentColor value = true) :
    maskWith color value = color := by
  have alone : maskWith color (value ++ []) = maskWord color value ++ maskWith color [] :=
    maskWith_word (isSolid_of_isCurrentColor named) rfl
  rwa [List.append_nil, maskWith_nil, List.append_nil, maskWord, if_pos named] at alone

/-! ### The masking colour -/

/-- A mark and word characters behind it, which do not start as a number does. -/
structure IsMask (mask : Text) : Prop where
  shape : ∃ digits, mask = '#' :: digits ∧ IsSolid digits
  lettered : (mask.tail.head?.any fun c => c = 'x' || c.isDigit) = false

/-- The digits of base sixteen, with small letters. -/
def hexDigits : Text :=
  ['0', '1', '2', '3', '4', '5', '6', '7', '8', '9', 'a', 'b', 'c', 'd', 'e', 'f']

theorem digitChar_mem_hexDigits {n : Nat} (small : n < 16) : Nat.digitChar n ∈ hexDigits := by
  have table : ∀ n < 16, Nat.digitChar n ∈ hexDigits := by decide
  exact table n small

/-- Behind its mark a masking colour has such digits only. -/
theorem forall_mem_maskColor {p : Char → Bool} (digits : hexDigits.all p = true) {green : Nat}
    (byte : green < 256) : ∀ c ∈ (maskColor green).tail, p c = true := by
  intro c member
  refine List.all_eq_true.mp digits c ?_
  have shape : (maskColor green).tail =
      ['f', 'e', Nat.digitChar (green / 16), Nat.digitChar (green % 16), 'f', 'e'] := rfl
  have high := digitChar_mem_hexDigits (n := green / 16) (by omega)
  have low := digitChar_mem_hexDigits (n := green % 16) (by omega)
  rw [shape] at member
  simp only [List.mem_cons, List.not_mem_nil, or_false] at member
  rcases member with rfl | rfl | rfl | rfl | rfl | rfl
  · decide
  · decide
  · exact high
  · exact low
  · decide
  · decide

theorem isMask_maskColor {green : Nat} (byte : green < 256) : IsMask (maskColor green) := by
  exact ⟨⟨_, rfl, List.cons_ne_nil _ _, forall_mem_maskColor (by decide) byte⟩, rfl⟩

theorem IsMask.some (isMask : IsMask mask) : mask ≠ [] := by
  obtain ⟨digits, rfl, -⟩ := isMask.shape
  exact List.cons_ne_nil _ _

theorem IsMask.mem (isMask : IsMask mask) (member : c ∈ mask) :
    c = '#' ∨ Char.isWord c = true := by
  obtain ⟨digits, rfl, solid⟩ := isMask.shape
  exact (List.mem_cons.mp member).imp id (solid.solid c)

theorem maskWith_eq_nil_iff (isMask : IsMask mask) : maskWith mask text = [] ↔ text = [] := by
  refine ⟨fun same => ?_, fun same => by rw [same, maskWith_nil]⟩
  induction text using word_induction with
  | nil => rfl
  | apart c text apart _ =>
    rw [maskWith_cons apart] at same
    cases same
  | word word rest solid ends _ =>
    rw [maskWith_word solid ends, List.append_eq_nil_iff, maskWord] at same
    split at same
    · exact absurd same.1 isMask.some
    · exact absurd same.1 solid.some

/-! ### Texts without the word -/

theorem mentionsCurrentColor_cons (apart : Char.isWord c = false) (text : Text) :
    mentionsCurrentColor (c :: text) = mentionsCurrentColor text := by
  rw [mentionsCurrentColor, hits_of_none (wordRun_of_apart apart text), mentionsCurrentColor]

theorem mentionsCurrentColor_word (solid : IsSolid word) (ends : Text.wordEnds rest = true) :
    mentionsCurrentColor (word ++ rest) = (isCurrentColor word || mentionsCurrentColor rest) := by
  obtain ⟨hit, found, value, behind⟩ := wordRun_append solid ends
  rw [mentionsCurrentColor, hits_of_some found, List.any_cons, value, behind, mentionsCurrentColor]

/-- A word that is another one is no text with the word in it. -/
theorem silent_of_isSolid (solid : IsSolid word) (other : isCurrentColor word = false) :
    mentionsCurrentColor word = false := by
  have mentions : mentionsCurrentColor (word ++ []) =
      (isCurrentColor word || mentionsCurrentColor []) := mentionsCurrentColor_word solid rfl
  rw [List.append_nil, other, Bool.false_or] at mentions
  rw [mentions, mentionsCurrentColor, hits_nil]
  rfl

theorem mentionsCurrentColor_currentColor : mentionsCurrentColor currentColor = true := by
  have mentions : mentionsCurrentColor (currentColor ++ []) =
      (isCurrentColor currentColor || mentionsCurrentColor []) :=
    mentionsCurrentColor_word (isSolid_of_isCurrentColor isCurrentColor_currentColor) rfl
  rwa [List.append_nil, isCurrentColor_currentColor, Bool.true_or] at mentions

/-- A text without the word stays as it is. -/
theorem maskWith_of_silent (silent : mentionsCurrentColor text = false) :
    maskWith mask text = text := by
  induction text using word_induction with
  | nil => exact maskWith_nil
  | apart c text apart ih =>
    rw [mentionsCurrentColor_cons apart] at silent
    rw [maskWith_cons apart, ih silent]
  | word word rest solid ends ih =>
    rw [mentionsCurrentColor_word solid ends, Bool.or_eq_false_iff] at silent
    rw [maskWith_word solid ends, maskWord, silent.1, if_neg Bool.false_ne_true, ih silent.2]

/-- Where no mark is in a masked text, nothing was masked. -/
theorem silent_of_unmarked (isMask : IsMask mask) (unmarked : '#' ∉ maskWith mask text) :
    mentionsCurrentColor text = false := by
  induction text using word_induction with
  | nil => rw [mentionsCurrentColor, hits_nil]; rfl
  | apart c text apart ih =>
    rw [maskWith_cons apart, List.mem_cons, not_or] at unmarked
    rw [mentionsCurrentColor_cons apart, ih unmarked.2]
  | word word rest solid ends ih =>
    rw [maskWith_word solid ends, List.mem_append, not_or, maskWord] at unmarked
    obtain ⟨digits, rfl, -⟩ := isMask.shape
    rw [mentionsCurrentColor_word solid ends, ih unmarked.2, Bool.or_false, ← Bool.not_eq_true]
    intro named
    rw [if_pos named] at unmarked
    exact unmarked.1 List.mem_cons_self

/-- What holds neither the word nor a mark is masked from nothing else. -/
theorem maskWith_eq_iff_of_unmarked (isMask : IsMask mask) {fixed : Text}
    (silent : mentionsCurrentColor fixed = false) (unmarked : '#' ∉ fixed) :
    maskWith mask value = fixed ↔ value = fixed := by
  constructor
  · intro same
    rw [← same] at unmarked
    rw [← same, maskWith_of_silent (silent_of_unmarked isMask unmarked)]
  · rintro rfl
    exact maskWith_of_silent silent

/-! ### Turning the colour back -/

/-- A word at the front of a masked text was at the front before. -/
theorem prefix_of_maskWith (isMask : IsMask mask) (solid : IsSolid word)
    (start : word <+: maskWith mask text) : word <+: text := by
  obtain ⟨digits, rfl, -⟩ := isMask.shape
  obtain ⟨nonempty, solid⟩ := solid
  obtain ⟨first, others, rfl⟩ := List.exists_cons_of_ne_nil nonempty
  have letter := (List.forall_mem_cons.mp solid).1
  obtain ⟨tail, split⟩ := start
  induction text using word_induction with
  | nil =>
    rw [maskWith_nil] at split
    cases split
  | apart c text apart _ =>
    rw [maskWith_cons apart] at split
    obtain ⟨rfl, -⟩ := List.cons.inj split
    rw [apart] at letter
    cases letter
  | word word rest solid' ends _ =>
    rw [maskWith_word solid' ends, maskWord] at split
    split at split
    · obtain ⟨rfl, -⟩ := List.cons.inj split
      exact absurd letter (by decide)
    · rcases List.append_eq_append_iff.mp split with ⟨gap, wordEq, restEq⟩ | ⟨gap, wordEq, restEq⟩
      · exact wordEq ▸ (List.prefix_append _ _).trans (List.prefix_append _ _)
      · cases gap with
        | nil =>
          rw [wordEq, List.append_nil]
          exact List.prefix_append _ _
        | cons c gap =>
          have inner := solid c (wordEq ▸ List.mem_append_right _ List.mem_cons_self)
          cases rest with
          | nil =>
            rw [maskWith_nil] at restEq
            cases restEq
          | cons next rest =>
            have apart : Char.isWord next = false := by simpa [Text.wordEnds] using ends
            rw [maskWith_cons apart] at restEq
            obtain ⟨rfl, -⟩ := List.cons.inj restEq
            rw [apart] at inner
            cases inner

/-- The masking colour does not start where the text does not start with it. -/
theorem literal_maskWith_cons (isMask : IsMask mask) (apart : Char.isWord c = false)
    (unused : ¬ mask <:+: c :: text) : literal mask (c :: maskWith mask text) = none := by
  obtain ⟨digits, rfl, solid⟩ := isMask.shape
  refine literal_eq_none fun rest same => unused ?_
  obtain ⟨rfl, behind⟩ := List.cons.inj same
  have start := prefix_of_maskWith isMask solid ⟨rest, behind.symm⟩
  exact ((List.prefix_cons_inj '#').mpr start).isInfix

theorem refuses_word (isMask : IsMask mask) (solid : IsSolid word) (behind : Text) :
    (literal mask).Refuses word behind := by
  obtain ⟨digits, rfl, -⟩ := isMask.shape
  intro ahead tail split nonempty
  refine literal_eq_none fun rest same => ?_
  obtain ⟨first, others, rfl⟩ := List.exists_cons_of_ne_nil nonempty
  obtain ⟨rfl, -⟩ := List.cons.inj same
  exact absurd (solid.solid '#' (split ▸ List.mem_append_right _ List.mem_cons_self)) (by decide)

/-- **Turning the masking colour back undoes masking**, up to the spelling of `currentColor`. -/
theorem unmask_maskWith (isMask : IsMask mask) (unused : ¬ mask <:+: text) :
    unmask mask (maskWith mask text) = maskWith currentColor text := by
  unfold unmask
  induction text using word_induction with
  | nil => rw [maskWith_nil, maskWith_nil, Text.replaceAll]
  | apart c text apart ih =>
    rw [maskWith_cons apart, maskWith_cons apart,
      Text.replaceAll_of_none isMask.some (literal_maskWith_cons isMask apart unused),
      ih fun within => unused (within.trans (List.suffix_cons c text).isInfix)]
  | word word rest solid ends ih =>
    rw [maskWith_word solid ends, maskWith_word solid ends, maskWord, maskWord,
      ← ih fun within => unused (within.trans (List.suffix_append word rest).isInfix)]
    split
    · exact Text.replaceAll_needle_append isMask.some _ _
    · exact Text.replaceAll_append_of_refuses isMask.some (refuses_word isMask solid _)

/-- Spelling `currentColor` as usual changes nothing but the case of letters. -/
theorem lower_maskWith_currentColor (text : Text) :
    Text.lower (maskWith currentColor text) = Text.lower text := by
  induction text using word_induction with
  | nil => rw [maskWith_nil]
  | apart c text apart ih =>
    rw [maskWith_cons apart, Text.lower, List.map_cons]
    exact congrArg (c.toLower :: ·) ih
  | word word rest solid ends ih =>
    have spelled : Text.lower (maskWord currentColor word) = Text.lower word := by
      unfold maskWord
      split
      · next named => exact (beq_iff_eq.mp named).symm
      · rfl
    rw [maskWith_word solid ends, Text.lower, List.map_append, Text.lower, List.map_append]
    exact congrArg₂ (· ++ ·) spelled ih

/-- **A value becomes the masking colour exactly if it is `currentColor`** in some letter case. -/
theorem maskWith_eq_mask_iff (isMask : IsMask mask) (unused : ¬ mask <:+: value) :
    maskWith mask value = mask ↔ isCurrentColor value = true := by
  refine ⟨fun same => ?_, maskWith_of_isCurrentColor⟩
  have back := unmask_maskWith isMask unused
  have whole := Text.replaceAll_needle_append isMask.some currentColor []
  rw [List.append_nil, Text.replaceAll, List.append_nil] at whole
  rw [same, unmask, whole] at back
  rw [isCurrentColor, Text.sameIgnoringCase, beq_iff_eq, ← lower_maskWith_currentColor, ← back]

/-- What a needle is found in, behind a stretch in which it does not start, goes on behind all of
the stretch. -/
theorem split_of_refuses {needle stretch behind before' after' : Text} (nonempty : needle ≠ [])
    (refuses : (literal needle).Refuses stretch behind)
    (split : stretch ++ behind = before' ++ needle ++ after') :
    ∃ gap, before' = stretch ++ gap ∧ behind = gap ++ needle ++ after' := by
  rw [List.append_assoc] at split
  rcases List.append_eq_append_iff.mp split with ⟨gap, beforeEq, behindEq⟩ | ⟨tail, whole, found⟩
  · exact ⟨gap, beforeEq, by rw [behindEq, List.append_assoc]⟩
  · by_cases none : tail = []
    · subst none
      rw [List.append_nil] at whole
      exact ⟨[], by rw [whole, List.append_nil], found.symm⟩
    · exact absurd found.symm (ne_append_of_literal nonempty (refuses before' tail whole none) after')

/-- **Where the masking colour is in a masked text**, there is `currentColor` in the text. -/
theorem exists_word_of_mask {before' after' : Text} (isMask : IsMask mask)
    (unused : ¬ mask <:+: text) (split : maskWith mask text = before' ++ mask ++ after') :
    ∃ before word after, text = before ++ word ++ after ∧ isCurrentColor word = true ∧
      maskWith mask before = before' ∧ maskWith mask after = after' := by
  induction text using word_induction generalizing before' with
  | nil =>
    rw [maskWith_nil, List.append_assoc, List.nil_eq_append_iff, List.append_eq_nil_iff] at split
    exact absurd split.2.1 isMask.some
  | apart c text apart ih =>
    rw [maskWith_cons apart] at split
    cases before' with
    | nil =>
      exact absurd split
        (ne_append_of_literal isMask.some (literal_maskWith_cons isMask apart unused) after')
    | cons first before' =>
      rw [List.cons_append, List.cons_append] at split
      obtain ⟨rfl, found⟩ := List.cons.inj split
      obtain ⟨before, word, after, rfl, named, ahead, behind⟩ :=
        ih (fun within => unused (within.trans (List.suffix_cons c text).isInfix)) found
      exact ⟨c :: before, word, after, rfl, named, by rw [maskWith_cons apart, ahead], behind⟩
  | word word rest solid ends ih =>
    have unused' : ¬ mask <:+: rest :=
      fun within => unused (within.trans (List.suffix_append word rest).isInfix)
    have later {gap : Text} (split : maskWith mask rest = gap ++ mask ++ after') :
        ∃ before other after, word ++ rest = before ++ other ++ after ∧
          isCurrentColor other = true ∧
          maskWith mask before = maskWord mask word ++ gap ∧ maskWith mask after = after' := by
      obtain ⟨before, other, after, rfl, named, ahead, behind⟩ := ih unused' split
      have ends' : Text.wordEnds before = true := by
        cases before with
        | nil => rfl
        | cons c before => exact ends
      refine ⟨word ++ before, other, after, ?_, named, ?_, behind⟩
      · simp only [List.append_assoc]
      · rw [maskWith_word solid ends', ahead]
    rw [maskWith_word solid ends] at split
    by_cases named : isCurrentColor word = true
    · obtain ⟨digits, rfl, solid'⟩ := isMask.shape
      rw [maskWord, if_pos named] at split later
      cases before' with
      | nil =>
        exact ⟨[], word, rest, rfl, named, maskWith_nil, List.append_cancel_left split⟩
      | cons first before' =>
        rw [List.cons_append, List.cons_append, List.cons_append] at split
        obtain ⟨rfl, others⟩ := List.cons.inj split
        obtain ⟨gap, rfl, found⟩ := split_of_refuses isMask.some
          (refuses_word isMask solid' _) others
        exact later found
    · rw [maskWord, if_neg named] at split later
      obtain ⟨gap, rfl, found⟩ := split_of_refuses isMask.some (refuses_word isMask solid _) split
      exact later found

/-! ### Choosing the colour -/

theorem lower_maskColor {green : Nat} (byte : green < 256) :
    Text.lower (maskColor green) = maskColor green := by
  have small := forall_mem_maskColor (p := fun c => c.toLower == c) (by decide) byte
  have digits : (maskColor green).tail.map Char.toLower = (maskColor green).tail :=
    (List.map_congr_left fun c member => beq_iff_eq.mp (small c member)).trans (List.map_id _)
  exact congrArg ('#' :: ·) digits

/-- A text that a colour masks, with the masked text. -/
structure Masks (text masked mask : Text) : Prop where
  color : ∃ green < 256, mask = maskColor green
  unused : ¬ mask <:+: Text.lower text
  mentions : mentionsCurrentColor text = true
  masked : masked = maskWith mask text

/-- **The colour that masks is one of 256**, and the text does not use it. -/
theorem mask?_eq_some {masked : Text} (masks : mask? text = some (masked, mask)) :
    Masks text masked mask := by
  unfold mask? at masks
  split at masks
  · next mentions =>
    obtain ⟨color, found, same⟩ := Option.map_eq_some_iff.mp masks
    obtain ⟨rfl, rfl⟩ := Prod.mk.inj same
    obtain ⟨green, byte, rfl⟩ := List.mem_map.mp (List.mem_of_find?_eq_some found)
    have absent : Text.contains (Text.lower text) (maskColor green) = false := by
      simpa using List.find?_some found
    exact ⟨⟨green, List.mem_range.mp byte, rfl⟩, Text.not_infix_of_contains absent, mentions, rfl⟩
  · cases masks

theorem Masks.isMask {masked : Text} (masks : Masks text masked mask) : IsMask mask := by
  obtain ⟨green, byte, rfl⟩ := masks.color
  exact isMask_maskColor byte

/-- The colour is not used in any letter case, so it is not used. -/
theorem Masks.not_infix {masked : Text} (masks : Masks text masked mask) : ¬ mask <:+: text := by
  obtain ⟨green, byte, rfl⟩ := masks.color
  intro within
  refine masks.unused ?_
  rw [← lower_maskColor byte]
  exact within.map Char.toLower

/-- **Without a colour that masks** the text has no word `currentColor`, or it uses all colours. -/
theorem mask?_eq_none (none : mask? text = none) :
    mentionsCurrentColor text = false ∨
      ∀ green < 256, Text.contains (Text.lower text) (maskColor green) = true := by
  unfold mask? at none
  split at none
  · rw [Option.map_eq_none_iff, freeColor?, List.find?_eq_none] at none
    refine Or.inr fun green byte => ?_
    have used := none _ (List.mem_map_of_mem (List.mem_range.mpr byte))
    simpa using used
  · next silent => exact Or.inl (Bool.not_eq_true _ ▸ silent)

end IconComponents
