/-
**The first svg tag of a text.**

The tag runs to the first closing bracket behind its name, whatever stands in between.

* `recognise_written`, `find?_written` — a tag at the front of a text is read as it is written;
* `OpensIn`, `opensIn_append` — a text opens a tag, whatever is behind it;
* `find?_behind` — a tag is the first one behind a text that opens none;
* `find?_of_opened` — a tag that is opened is found, or one before it;
* `find?_append` — the first tag of a text stays the first one when the text goes on;
* `IsFirst`, `find?_eq_some_iff`, `find?_eq_none_iff` — what is found, and when nothing is;
* `inside_closed`, `inside_open` — what is read off the inside of a tag.
-/

import IconComponents.Markup.SvgTag
import IconComponents.Proofs.Text.Blank
import IconComponents.Proofs.Text.Scan

namespace IconComponents

namespace SvgTag

/-! ### A written tag -/

theorem recognise_written {inside rest : Text} (noEnd : '>' ∉ inside)
    (wordEnds : Text.wordEnds (inside ++ '>' :: rest) = true) :
    ∃ hit, recognise (written inside ++ rest) = some hit ∧ hit.value = inside ∧ hit.rest = rest := by
  have shape : written inside ++ rest = opening ++ (inside ++ '>' :: rest) := by simp [written]
  have passes : ∀ c ∈ inside, (c != '>') = true := fun c member => by
    rw [bne_iff_ne]
    exact fun same => noEnd (same ▸ member)
  have taken : (inside ++ '>' :: rest).takeWhile (· != '>') = inside := by
    rw [List.takeWhile_append_of_pos passes, List.takeWhile_cons_of_neg (by decide),
      List.append_nil]
  have dropped : (inside ++ '>' :: rest).dropWhile (· != '>') = '>' :: rest := by
    rw [List.dropWhile_append_of_pos passes, List.dropWhile_cons_of_neg (by decide)]
  have start : Text.after? opening (written inside ++ rest) = some (inside ++ '>' :: rest) :=
    Text.after?_eq_some_iff.mpr shape
  unfold recognise
  split
  · next none => rw [start] at none; cases none
  · next after same =>
    rw [start] at same
    cases same
    rw [if_pos wordEnds]
    split
    · next none => rw [dropped] at none; cases none
    · next behind tail =>
      rw [dropped] at tail
      cases tail
      exact ⟨_, rfl, taken, rfl⟩

theorem recognise_of_shape (text : Text) {inside rest : Text}
    (shape : text = opening ++ (inside ++ '>' :: rest))
    (noEnd : '>' ∉ inside) (wordEnds : Text.wordEnds (inside ++ '>' :: rest) = true) :
    ∃ hit, recognise text = some hit ∧ hit.value = inside ∧ hit.rest = rest := by
  have written : text = written inside ++ rest := by simp [shape, written]
  subst written
  exact recognise_written noEnd wordEnds

/-- A tag as it is written is found. -/
theorem find?_written {inside rest : Text} (noEnd : '>' ∉ inside)
    (wordEnds : Text.wordEnds (inside ++ '>' :: rest) = true) :
    find? (written inside ++ rest) = some ([], inside, rest) := by
  obtain ⟨hit, taken, valueEq, restEq⟩ := recognise_written noEnd wordEnds
  have shape : written inside ++ rest = '<' :: ("svg".toList ++ inside ++ ['>'] ++ rest) := rfl
  rw [find?]
  revert hit
  rw [shape, Recogniser.find?]
  intro hit taken valueEq restEq
  rw [taken]
  simp only
  rw [valueEq, restEq]

/-- What is read as a tag is one, and it ends at its first `>`. -/
theorem of_recognise {text : Text} {hit : Hit Text text} (found : recognise text = some hit) :
    text = opening ++ (hit.value ++ '>' :: hit.rest) ∧ '>' ∉ hit.value ∧
      Text.wordEnds (hit.value ++ '>' :: hit.rest) = true := by
  unfold recognise at found
  split at found
  · cases found
  · next after start =>
    split at found
    · next ends =>
      split at found
      · cases found
      · next bracket rest tail =>
        cases found
        have isBracket : bracket = '>' := by
          have first := List.head?_dropWhile_not (· != '>') after
          rw [tail] at first
          simpa using first
        subst isBracket
        have split : after = after.takeWhile (· != '>') ++ '>' :: rest := by
          rw [← tail, List.takeWhile_append_dropWhile]
        refine ⟨?_, fun member => ?_, split ▸ ends⟩
        · rw [← split]
          exact Text.after?_eq_some_iff.mp start
        · exact absurd (List.mem_takeWhile_imp member) (by decide)
    · cases found

/-! ### Tags that a text opens -/

/-- A tag starts in a text, whatever is behind the text. -/
def OpensIn (text : Text) : Prop :=
  ∃ before after, text = before ++ (opening ++ after) ∧ Text.wordEnds after = true

theorem not_opensIn {text : Text} (free : ¬ opening <:+: text) : ¬ OpensIn text := by
  rintro ⟨before, after, rfl, -⟩
  exact free ⟨before, after, List.append_assoc _ _ _⟩

/-- In a text that opens no tag none starts if the character behind it is none of `svg`. -/
theorem refuses_of_not_opensIn {text : Text} (closed : ¬ OpensIn text) {border : Char}
    (foreign : border ∉ "svg".toList) (behind : Text) :
    Recogniser.Refuses recognise text (border :: behind) := by
  intro ahead tail split some
  rw [Option.eq_none_iff_forall_ne_some]
  intro hit found
  obtain ⟨start, -, ends⟩ := of_recognise found
  rcases List.append_eq_append_iff.mp start with ⟨gap, openingEq, behindEq⟩ | ⟨gap, tailEq, rest⟩
  · cases gap with
    | nil =>
      refine closed ⟨ahead, [], ?_, rfl⟩
      rw [split, openingEq, List.append_nil, List.append_nil]
    | cons second gap =>
      obtain ⟨first, tail, rfl⟩ := List.exists_cons_of_ne_nil some
      rw [← (List.cons.inj behindEq).1] at openingEq
      have named : '<' :: "svg".toList = first :: (tail ++ border :: gap) := openingEq
      exact foreign ((List.cons.inj named).2 ▸ List.mem_append_right _ List.mem_cons_self)
  · refine closed ⟨ahead, gap, by rw [split, tailEq], ?_⟩
    rw [rest] at ends
    cases gap with
    | nil => rfl
    | cons first gap => exact ends

/-- **The first tag** behind a text that opens none is the one that is written there. -/
theorem find?_behind {before inside rest : Text} (closed : ¬ OpensIn before)
    (noEnd : '>' ∉ inside) (wordEnds : Text.wordEnds (inside ++ '>' :: rest) = true) :
    find? (before ++ (written inside ++ rest)) = some (before, inside, rest) := by
  have found := Recogniser.find?_append_of_refuses
    (refuses_of_not_opensIn closed (by decide) ("svg".toList ++ inside ++ ['>'] ++ rest))
    (find?_written noEnd wordEnds)
  rwa [List.append_nil] at found

/-- **A tag that is opened is found**, at its place or before it, and it ends at the first `>`. -/
theorem find?_of_opened (before : Text) {after : Text} (ends : Text.wordEnds after = true)
    (closed : '>' ∈ after) : ∃ ahead inside rest,
      find? (before ++ (opening ++ after)) = some (ahead, inside, rest) ∧
        ahead ++ (opening ++ (inside ++ '>' :: rest)) = before ++ (opening ++ after) ∧
          '>' ∉ inside ∧ ∃ gap, before = ahead ++ gap := by
  induction before with
  | nil =>
    obtain ⟨inside, rest, rfl, free⟩ := List.eq_append_cons_of_mem closed
    have found := find?_written free ends
    have shape : written inside ++ rest = opening ++ (inside ++ '>' :: rest) := by simp [written]
    rw [shape] at found
    exact ⟨[], inside, rest, found, rfl, free, [], rfl⟩
  | cons c before ih =>
    rw [List.cons_append, find?, Recogniser.find?]
    cases read : recognise (c :: (before ++ (opening ++ after))) with
    | some hit =>
      obtain ⟨split, free, -⟩ := of_recognise read
      exact ⟨[], hit.value, hit.rest, rfl, split.symm, free, c :: before, rfl⟩
    | none =>
      obtain ⟨ahead, inside, rest, found, split, free, gap, rfl⟩ := ih
      rw [find?] at found
      refine ⟨c :: ahead, inside, rest, by rw [found]; rfl, ?_, free, gap, rfl⟩
      rw [List.cons_append, split]

/-- A tag is opened at the first character or behind it. -/
theorem opensIn_cons_iff {c : Char} {text : Text} : OpensIn (c :: text) ↔
    (∃ after, c :: text = opening ++ after ∧ Text.wordEnds after = true) ∨ OpensIn text := by
  constructor
  · rintro ⟨before, after, split, ends⟩
    cases before with
    | nil => exact Or.inl ⟨after, split, ends⟩
    | cons first before => exact Or.inr ⟨before, after, (List.cons.inj split).2, ends⟩
  · rintro (⟨after, split, ends⟩ | ⟨before, after, rfl, ends⟩)
    · exact ⟨[], after, split, ends⟩
    · exact ⟨c :: before, after, rfl, ends⟩

theorem opensIn_cons {c : Char} (other : c ≠ '<') {text : Text} :
    OpensIn (c :: text) ↔ OpensIn text := by
  rw [opensIn_cons_iff, or_iff_right]
  rintro ⟨after, split, -⟩
  exact other (List.cons.inj split).1

theorem not_opensIn_of_length {text : Text} (short : text.length < 4) : ¬ OpensIn text := by
  rintro ⟨before, after, rfl, -⟩
  have : opening.length = 4 := rfl
  simp only [List.length_append] at short
  omega

/-- A text without a bracket adds nothing to what is opened behind it. -/
theorem opensIn_of_free {text : Text} (free : '<' ∉ text) {behind : Text} :
    OpensIn (text ++ behind) ↔ OpensIn behind := by
  induction text with
  | nil => rfl
  | cons c text ih =>
    rw [List.mem_cons, not_or] at free
    rw [List.cons_append, opensIn_cons (Ne.symm free.1), ih free.2]

theorem not_opensIn_of_free {text : Text} (free : '<' ∉ text) : ¬ OpensIn text := by
  rw [← List.append_nil text, opensIn_of_free free]
  exact not_opensIn_of_length (by decide)

/-- A bracket opens a tag if the name is behind it. -/
theorem opensIn_bracket {text : Text} : OpensIn ('<' :: text) ↔
    (∃ after, text = "svg".toList ++ after ∧ Text.wordEnds after = true) ∨ OpensIn text := by
  have front : ∀ after, '<' :: text = opening ++ after ↔ text = "svg".toList ++ after :=
    fun after => List.cons_inj_right '<'
  simp only [opensIn_cons_iff, front]

/-- What two texts open is opened by one of them if no word goes on from the first to the second. -/
theorem opensIn_append {text behind : Text} (apart : Text.wordEnds behind = true) :
    OpensIn (text ++ behind) ↔ OpensIn text ∨ OpensIn behind := by
  have ends : ∀ gap, Text.wordEnds (gap ++ behind) = true ↔ Text.wordEnds gap = true := by
    intro gap
    cases gap with
    | nil => exact iff_of_true apart rfl
    | cons c gap => rfl
  constructor
  · rintro ⟨before, after, split, afterEnds⟩
    rcases List.append_eq_append_iff.mp split with ⟨gap, -, inBehind⟩ | ⟨gap, rfl, inText⟩
    · exact Or.inr ⟨gap, after, inBehind, afterEnds⟩
    rcases List.append_eq_append_iff.mp inText with ⟨gap', rfl, rfl⟩ | ⟨gap', named, behindEq⟩
    · exact Or.inl ⟨before, gap', rfl, (ends gap').mp afterEnds⟩
    cases gap' with
    | nil => exact Or.inl ⟨before, [], by rw [named, List.append_nil, List.append_nil], rfl⟩
    | cons c gap' =>
      cases gap with
      | nil => exact Or.inr ⟨[], after, by rw [behindEq, named]; rfl, afterEnds⟩
      | cons first gap =>
        have inName : '<' :: "svg".toList = first :: (gap ++ c :: gap') := named
        have member : c ∈ "svg".toList :=
          (List.cons.inj inName).2 ▸ List.mem_append_right _ List.mem_cons_self
        have words : "svg".toList.all Char.isWord = true := by decide
        rw [behindEq, List.cons_append, Text.wordEnds, List.all_eq_true.mp words c member] at apart
        cases apart
  · rintro (⟨before, after, rfl, afterEnds⟩ | ⟨before, after, rfl, afterEnds⟩)
    · exact ⟨before, after ++ behind, by simp, (ends after).mpr afterEnds⟩
    · exact ⟨text ++ before, after, by rw [List.append_assoc], afterEnds⟩

/-! ### Texts that hold a tag -/

theorem bracket_mem_of_find? {text : Text} {found : Text × Text × Text}
    (first : find? text = some found) : '>' ∈ text := by
  unfold find? at first
  induction text generalizing found with
  | nil => cases first
  | cons c text ih =>
    rw [Recogniser.find?] at first
    split at first
    · next hit taken =>
      rw [(of_recognise taken).1]
      simp
    · obtain ⟨later, found, -⟩ := Option.map_eq_some_iff.mp first
      exact List.mem_cons_of_mem _ (ih found)

/-- What is behind a character has no say in whether the name ends in front of it. -/
theorem wordEnds_bracket {front : Text} (c : Char) (back rest : Text)
    (ends : Text.wordEnds (front ++ c :: back) = true) :
    Text.wordEnds (front ++ c :: rest) = true := by
  cases front with
  | nil => exact ends
  | cons first front => exact ends

/-- Where no tag starts, none starts when the text goes on behind a bracket. -/
theorem recognise_append_eq_none {c : Char} {text : Text} (refused : recognise (c :: text) = none)
    (closed : '>' ∈ text) (behind : Text) : recognise (c :: (text ++ behind)) = none := by
  rw [Option.eq_none_iff_forall_ne_some]
  intro hit taken
  obtain ⟨shape, free, ends⟩ := of_recognise taken
  obtain ⟨front, back, rfl, frontFree⟩ := List.eq_append_cons_of_mem closed
  have isBracket : c = '<' := (List.cons.inj shape).1
  have split : (c :: front) ++ '>' :: (back ++ behind) =
      (opening ++ hit.value) ++ '>' :: hit.rest := by
    rw [List.append_assoc opening, ← shape]
    simp
  obtain ⟨same, -⟩ := Text.append_cons_inj (by simp [isBracket, frontFree])
    (by rw [List.mem_append]; exact fun member => member.elim (by decide +kernel) free) split
  obtain ⟨shorter, taken', -⟩ := recognise_of_shape (c :: (front ++ '>' :: back))
    (by rw [← List.cons_append, same]; simp) free (wordEnds_bracket '>' _ back ends)
  rw [refused] at taken'
  cases taken'

/-- **The first tag of a text** is the first one whatever is behind the text. -/
theorem find?_append {text ahead inside rest : Text}
    (first : find? text = some (ahead, inside, rest)) (behind : Text) :
    find? (text ++ behind) = some (ahead, inside, rest ++ behind) := by
  induction text generalizing ahead with
  | nil => cases first
  | cons c text ih =>
    rw [find?, Recogniser.find?] at first
    rw [List.cons_append, find?, Recogniser.find?]
    split at first
    · next hit taken =>
      cases first
      obtain ⟨shape, free, ends⟩ := of_recognise taken
      obtain ⟨longer, taken', value, restEq⟩ := recognise_of_shape (c :: (text ++ behind))
        (by rw [← List.cons_append, congrArg (· ++ behind) shape]; simp) free
        (wordEnds_bracket '>' _ (hit.rest ++ behind) ends)
      rw [taken']
      simp only
      rw [value, restEq]
    · next refused =>
      obtain ⟨⟨inner, found⟩, later, same⟩ := Option.map_eq_some_iff.mp first
      cases same
      rw [recognise_append_eq_none refused (bracket_mem_of_find? later)]
      simp only
      rw [← find?, ih later]
      rfl

/-! ### The end of the name -/

theorem wordEnds_append {text behind : Text} (first : Text.wordEnds text = true)
    (second : Text.wordEnds behind = true) : Text.wordEnds (text ++ behind) = true := by
  cases text with
  | nil => exact second
  | cons c text => exact first

theorem wordEnds_of_blank {blanks : Text} (blank : ∀ c ∈ blanks, Char.isBlank c = true) :
    Text.wordEnds blanks = true := by
  cases blanks with
  | nil => rfl
  | cons c blanks =>
    rw [Text.wordEnds, Text.not_isWord_of_isBlank (blank c List.mem_cons_self)]
    rfl

/-! ### The first tag -/

/-- What is found is a tag. -/
theorem of_find? {text before inside after : Text}
    (found : find? text = some (before, inside, after)) :
    text = before ++ (opening ++ (inside ++ '>' :: after)) ∧ '>' ∉ inside ∧
      Text.wordEnds (inside ++ '>' :: after) = true := by
  unfold find? at found
  induction text generalizing before with
  | nil => cases found
  | cons c text ih =>
    rw [Recogniser.find?] at found
    split at found
    · next hit taken =>
      cases found
      exact of_recognise taken
    · obtain ⟨⟨ahead, behind⟩, later, same⟩ := Option.map_eq_some_iff.mp found
      cases same
      obtain ⟨shape, free, ends⟩ := ih later
      exact ⟨congrArg (c :: ·) shape, free, ends⟩

/-- The first svg tag of a text: the name ends behind `<svg`, the tag ends at the first `>`, and no
other `<svg` with its name ending there is in front of it. -/
structure IsFirst (text before inside after : Text) : Prop where
  split : text = before ++ (opening ++ (inside ++ '>' :: after))
  named : Text.wordEnds (inside ++ '>' :: after) = true
  ends : '>' ∉ inside
  first : ∀ ahead behind, text = ahead ++ (opening ++ behind) → Text.wordEnds behind = true →
    before.length ≤ ahead.length

/-- No tag opens in front of the first one. -/
theorem IsFirst.not_opensIn {text before inside after : Text}
    (isFirst : IsFirst text before inside after) : ¬ OpensIn before := by
  rintro ⟨ahead, gap, rfl, ends⟩
  have goesOn : Text.wordEnds (gap ++ (opening ++ (inside ++ '>' :: after))) = true :=
    wordEnds_append ends rfl
  have least := isFirst.first ahead _ (by rw [isFirst.split]; simp) goesOn
  have name : opening.length = 4 := rfl
  simp only [List.length_append] at least
  omega

/-- **The first tag** is what is found: a name further ahead would have the end of this tag behind
it. -/
theorem find?_eq_some_iff {text before inside after : Text} :
    find? text = some (before, inside, after) ↔ IsFirst text before inside after := by
  constructor
  · intro found
    obtain ⟨split, free, ends⟩ := of_find? found
    refine ⟨split, ends, free, fun ahead behind other named => ?_⟩
    by_contra earlier
    have tail : '>' :: after <:+ behind := by
      have later : '>' :: after <:+ text := ⟨before ++ opening ++ inside, by rw [split]; simp⟩
      have sooner : behind <:+ text := ⟨ahead ++ opening, by rw [other, List.append_assoc]⟩
      refine List.suffix_of_suffix_length_le later sooner ?_
      have sizes := congrArg List.length (split.symm.trans other)
      simp only [List.length_append, List.length_cons] at sizes ⊢
      omega
    obtain ⟨ahead', inside', rest, found', -, -, gap, rfl⟩ :=
      find?_of_opened ahead named (tail.mem List.mem_cons_self)
    rw [← other, found] at found'
    cases found'
    simp at earlier
  · intro isFirst
    have shape : text = before ++ (written inside ++ after) := by
      rw [isFirst.split]
      simp [written]
    rw [shape]
    exact find?_behind isFirst.not_opensIn isFirst.ends isFirst.named

/-- Somewhere in a text a tag starts that ends. -/
def HoldsTag (text : Text) : Prop :=
  ∃ before after, text = before ++ (opening ++ after) ∧ Text.wordEnds after = true ∧ '>' ∈ after

/-- **Nothing is found** in a text without a tag, and in no other one. -/
theorem find?_eq_none_iff {text : Text} : find? text = none ↔ ¬ HoldsTag text := by
  constructor
  · rintro none ⟨before, after, rfl, ends, closed⟩
    obtain ⟨ahead, inside, rest, found, -⟩ := find?_of_opened before ends closed
    rw [none] at found
    cases found
  · intro without
    rw [Option.eq_none_iff_forall_ne_some]
    rintro ⟨before, inside, after⟩ found
    obtain ⟨split, -, ends⟩ := of_find? found
    exact without ⟨before, _, split, ends, by simp⟩

/-! ### The inside of a tag -/

/-- A slash at its end closes a tag. -/
theorem inside_closed {attributes blanks : Text} (solid : Text.EndsSolid attributes)
    (blank : ∀ c ∈ blanks, Char.isBlank c = true) :
    inside (attributes ++ blanks ++ ['/']) = ⟨attributes, true⟩ := by
  rw [inside, List.getLast?_concat, if_pos rfl, List.dropLast_concat, Text.trimEnd_append solid blank]

/-- Without a slash at its end a tag is open. -/
theorem inside_open {attributes blanks : Text} (solid : Text.EndsSolid attributes)
    (noSlash : attributes.getLast? ≠ some '/') (blank : ∀ c ∈ blanks, Char.isBlank c = true) :
    inside (attributes ++ blanks) = ⟨attributes, false⟩ := by
  have last : (attributes ++ blanks).getLast? ≠ some '/' := by
    intro slash
    rcases List.eq_nil_or_concat' blanks with rfl | ⟨others, final, rfl⟩
    · rw [List.append_nil] at slash
      exact noSlash slash
    · rw [← List.append_assoc, List.getLast?_concat] at slash
      have finalBlank := blank final (by simp)
      rw [Option.some.inj slash] at finalBlank
      exact absurd finalBlank (by decide)
  rw [inside, if_neg last, Text.trimEnd_append solid blank]

end SvgTag

end IconComponents
