/-
**Sizes in the inside of a tag.**

The pass over sizes knows no quotes: a size is white space, a key and `=` in front of a quote,
whether these are the name of an attribute or the end of a value.

* `isOpened_of_recognise` — what stands in front of the quote;
* `dropSizes_value`, `dropSizes_value_of_key` — a value that does not end so, and one that does;
* `Attribute.unsized` — what stays of an attribute: of a size, white space at most;
* `dropSizes_front` — all attributes but the sizes stay if no value ends in a key.
-/

import IconComponents.Proofs.Markup.Document

namespace IconComponents

/-- The text without the sizes in it. -/
def dropSizes (text : Text) : Text := Recogniser.rewrite SizeAttribute.recognise (fun _ => []) text

namespace SizeAttribute

variable {text : Text} {c : Char}

/-! ### Where a size stands -/

theorem shape_of_recognise {hit : Hit SizeAttribute text} (found : recognise text = some hit) :
    ∃ blank key value, Char.isBlank blank = true ∧ IsKey key ∧ '"' ∉ value ∧
      text = blank :: key ++ '=' :: '"' :: (value ++ '"' :: hit.rest) := by
  cases text with
  | nil => cases found
  | cons blank text =>
    rw [recognise] at found
    split at found
    · next isBlank =>
      split at found
      · cases found
      · next after start =>
        split at found
        · cases found
        · next value rest quoted =>
          cases found
          obtain ⟨key, isKey, rfl⟩ := afterName?_eq_some start
          have shape := congrArg (fun after => blank :: key ++ '=' :: '"' :: after)
            (Text.eq_of_quotedEnd? quoted)
          exact ⟨blank, key, value, isBlank, isKey, Text.plain_of_quotedEnd? quoted, shape⟩
    · cases found

theorem equals_not_mem {key : Text} (isKey : IsKey key) : '=' ∉ key := by
  rcases isKey with rfl | rfl <;> decide

theorem quote_not_mem {key : Text} (isKey : IsKey key) : '"' ∉ key := by
  rcases isKey with rfl | rfl <;> decide

theorem recognise_eq_none_of_solid (solid : Char.isBlank c = false) (rest : Text) :
    recognise (c :: rest) = none := by
  rw [recognise, if_neg (by rw [solid]; decide)]

/-- The characters that keys start with. -/
def startsKey (c : Char) : Bool := c = 'w' || c = 'h'

theorem recognise_eq_none_of_next {next : Char} (other : startsKey next = false) (rest : Text) :
    recognise (c :: next :: rest) = none := by
  rw [Option.eq_none_iff_forall_ne_some]
  intro hit found
  obtain ⟨_, key, _, -, isKey, start⟩ := key_of_recognise found
  have named := (List.cons.inj start).2
  rcases isKey with rfl | rfl <;>
  · rw [(List.cons.inj named).1] at other
    exact absurd other (by decide)

/-- No key starts with white space. -/
theorem startsKey_eq_false (blank : Char.isBlank c = true) : startsKey c = false := by
  cases starts : startsKey c with
  | false => rfl
  | true =>
    rcases Bool.or_eq_true_iff.mp starts with same | same <;>
    · rw [of_decide_eq_true same] at blank
      exact absurd blank (by decide)

/-- A size has two quotes. -/
theorem recognise_eq_none_of_count (few : text.count '"' ≤ 1) : recognise text = none := by
  rw [Option.eq_none_iff_forall_ne_some]
  intro hit found
  obtain ⟨_, key, value, -, -, -, shape⟩ := shape_of_recognise found
  rw [shape] at few
  simp only [List.count_append, List.count_cons, beq_self_eq_true, if_true] at few
  omega

/-- White space, a key, and `=`. -/
def IsOpened (text : Text) : Prop :=
  ∃ blank key, Char.isBlank blank = true ∧ IsKey key ∧ text = blank :: (key ++ ['='])

theorem quote_not_mem_opened (opened : IsOpened text) : '"' ∉ text := by
  obtain ⟨blank, key, isBlank, isKey, rfl⟩ := opened
  have notQuote : '"' ≠ blank := by
    rintro rfl
    exact absurd isBlank (by decide)
  simp [notQuote, quote_not_mem isKey]

/-- **A size is a text up to a quote** that is white space, a key, and `=`. -/
theorem isOpened_of_recognise {behind : Text} (free : '"' ∉ text)
    {hit : Hit SizeAttribute (text ++ '"' :: behind)}
    (found : recognise (text ++ '"' :: behind) = some hit) : IsOpened text := by
  obtain ⟨blank, key, value, isBlank, isKey, -, shape⟩ := shape_of_recognise found
  have opened : IsOpened (blank :: (key ++ ['='])) := ⟨blank, key, isBlank, isKey, rfl⟩
  have split : text ++ '"' :: behind =
      (blank :: (key ++ ['='])) ++ '"' :: (value ++ '"' :: hit.rest) :=
    shape.trans (by simp)
  rw [(Text.append_cons_inj free (quote_not_mem_opened opened) split).1]
  exact opened

/-- A text that ends in white space, a key, and `=`. -/
def EndsInKey (text : Text) : Prop := ∃ words opened, IsOpened opened ∧ text = words ++ opened

theorem blank_not_mem {key : Text} (isKey : IsKey key) {blank : Char}
    (isBlank : Char.isBlank blank = true) : blank ∉ key := fun member => by
  have solid : ∀ c ∈ key, Char.isBlank c = false := by
    rcases isKey with rfl | rfl <;> exact Text.forall_mem_of_all rfl
  rw [solid blank member] at isBlank
  cases isBlank

end SizeAttribute

open SizeAttribute

/-! ### Sizes in pieces of a tag -/

/-- What the pass makes of a text with a tag. -/
theorem stripRootSize_of_find {text before inside rest : Text}
    (found : SvgTag.find? text = some (before, inside, rest)) :
    stripRootSize text = before ++ (SvgTag.opening ++ (dropSizes inside ++ '>' :: rest)) := by
  rw [stripRootSize, found]
  simp [SvgTag.written, dropSizes]

theorem dropSizes_of_count {text : Text} (few : text.count '"' ≤ 1) : dropSizes text = text := by
  refine Recogniser.rewrite_eq_self (Recogniser.hits_eq_nil_iff.mpr fun ahead tail split _ => ?_)
  rw [List.append_nil]
  refine recognise_eq_none_of_count (Nat.le_trans ?_ few)
  rw [split, List.count_append]
  exact Nat.le_add_left _ _

theorem dropSizes_append_of_solid {stretch : Text} (solid : ∀ c ∈ stretch, Char.isBlank c = false)
    (behind : Text) : dropSizes (stretch ++ behind) = stretch ++ dropSizes behind :=
  Recogniser.rewrite_append_of_refuses <|
    Recogniser.refuses_of_forall (fun _ rest passes => recognise_eq_none_of_solid passes rest) solid
      behind

/-- No size starts in front of characters that start no key. -/
theorem dropSizes_append_of_next {stretch : Text} {next : Char}
    (other : ∀ c ∈ stretch, startsKey c = false) (nextOther : startsKey next = false)
    (behind : Text) :
    dropSizes (stretch ++ next :: behind) = stretch ++ dropSizes (next :: behind) :=
  Recogniser.rewrite_append_of_refuses <| Recogniser.refuses_of_next
    (fun _ _ rest passes => recognise_eq_none_of_next passes rest) other nextOther behind

theorem dropSizes_append_of_blank {blanks : Text} {last : Char}
    (blank : ∀ c ∈ blanks, Char.isBlank c = true) (lastBlank : Char.isBlank last = true)
    (behind : Text) :
    dropSizes (blanks ++ last :: behind) = blanks ++ dropSizes (last :: behind) :=
  dropSizes_append_of_next (fun c member => startsKey_eq_false (blank c member))
    (startsKey_eq_false lastBlank) behind

/-- A value is passed over with its closing quote if it does not end in a key. -/
theorem dropSizes_value {value : Text} (plain : '"' ∉ value) (quiet : ¬ EndsInKey value)
    (behind : Text) : dropSizes (value ++ '"' :: behind) = value ++ '"' :: dropSizes behind := by
  have refuses : SizeAttribute.recognise.Refuses value ('"' :: behind) := by
    intro ahead tail split _
    rw [Option.eq_none_iff_forall_ne_some]
    intro hit found
    have tailFree : '"' ∉ tail := fun member => plain (split ▸ List.mem_append_right _ member)
    exact quiet ⟨ahead, tail, isOpened_of_recognise tailFree found, split⟩
  have closing : dropSizes ('"' :: behind) = '"' :: dropSizes behind :=
    Recogniser.rewrite_of_none (recognise_eq_none_of_solid (by decide) behind)
  rw [← closing]
  exact Recogniser.rewrite_append_of_refuses refuses

/-- A value that ends in a key loses it, together with what is between its closing quote and the
next quote. -/
theorem dropSizes_value_of_key {words opened middle : Text} (plain : '"' ∉ words)
    (isOpened : IsOpened opened) (free : '"' ∉ middle) (behind : Text) :
    dropSizes (words ++ (opened ++ '"' :: (middle ++ '"' :: behind))) =
      words ++ dropSizes behind := by
  have refuses : SizeAttribute.recognise.Refuses words
      (opened ++ '"' :: (middle ++ '"' :: behind)) := by
    intro ahead tail split some
    rw [Option.eq_none_iff_forall_ne_some, ← List.append_assoc]
    intro hit found
    have tailFree : '"' ∉ tail := fun member => plain (split ▸ List.mem_append_right _ member)
    obtain ⟨other, key', -, isKey', same⟩ := isOpened_of_recognise (by
      rw [List.mem_append]
      exact fun member => member.elim tailFree (quote_not_mem_opened isOpened)) found
    obtain ⟨blank, key, isBlank, -, rfl⟩ := isOpened
    obtain ⟨first, tail, rfl⟩ := List.exists_cons_of_ne_nil some
    have inKey : blank ∈ key' ++ ['='] := by
      rw [← (List.cons.inj same).2]
      exact List.mem_append_right _ List.mem_cons_self
    rcases List.mem_append.mp inKey with member | equals
    · exact blank_not_mem isKey' isBlank member
    · rw [List.mem_singleton.mp equals] at isBlank
      exact absurd isBlank (by decide)
  obtain ⟨blank, key, isBlank, isKey, rfl⟩ := isOpened
  obtain ⟨hit, taken, restEq⟩ := recognise_written isBlank isKey free behind
  have dropped : dropSizes (blank :: key ++ '=' :: '"' :: (middle ++ '"' :: behind)) =
      dropSizes behind := by
    rw [dropSizes, Recogniser.rewrite_of_some taken, restEq]
    rfl
  have shape : blank :: (key ++ ['=']) ++ '"' :: (middle ++ '"' :: behind) =
      blank :: key ++ '=' :: '"' :: (middle ++ '"' :: behind) := by simp
  rw [← dropped, ← shape]
  exact Recogniser.rewrite_append_of_refuses refuses

namespace Document

/-! ### Attributes -/

/-- Whether an attribute is a width or a height. -/
def Attribute.isSize (entry : Attribute) : Bool :=
  entry.name = "width".toList || entry.name = "height".toList

theorem isSize_iff (entry : Attribute) : entry.isSize = true ↔ IsKey entry.name := by
  rw [Attribute.isSize, IsKey, Bool.or_eq_true, decide_eq_true_iff, decide_eq_true_iff]

/-- An attribute up to its value. -/
def Attribute.opened (entry : Attribute) : Text := entry.gap.text ++ (entry.name ++ ['=', '"'])

theorem print_eq_opened (entry : Attribute) :
    entry.print = entry.opened ++ (entry.value ++ ['"']) := by
  simp [Attribute.print, Attribute.opened, Element.quoted]

/-- What stays of an attribute: of a size, the white space that is not taken with it. -/
def Attribute.unsized (entry : Attribute) : Text :=
  if entry.isSize then entry.gap.text.dropLast else entry.print

/-- What stays of the inside of a tag. -/
def printUnsized (attributes : List Attribute) : Text := attributes.flatMap Attribute.unsized

theorem dropSizes_opened {entry : Attribute} (other : entry.isSize = false) (behind : Text) :
    dropSizes (entry.opened ++ behind) = entry.opened ++ dropSizes behind := by
  obtain ⟨blanks, last, shape, blank, lastBlank⟩ := entry.gap.exists_last
  have text : ∀ rest,
      entry.opened ++ rest = blanks ++ last :: ((entry.name ++ ['=', '"']) ++ rest) :=
    fun rest => by simp [Attribute.opened, shape]
  have solid : ∀ c ∈ entry.name ++ ['=', '"'], Char.isBlank c = false := by
    intro c member
    rcases List.mem_append.mp member with part | mark
    · exact not_isBlank_of_isNamePart (entry.nameParts c part)
    · rcases List.mem_pair.mp mark with rfl | rfl <;> decide
  have refused : recognise (last :: ((entry.name ++ ['=', '"']) ++ behind)) = none := by
    rw [Option.eq_none_iff_forall_ne_some]
    intro hit found
    obtain ⟨_, key, rest, -, isKey, start⟩ := key_of_recognise found
    have named : entry.name ++ '=' :: ('"' :: behind) = key ++ '=' :: rest := by
      have same := (List.cons.inj start).2
      rwa [List.append_assoc] at same
    have nameEq := (Text.append_cons_inj (not_mem_of_nameParts (by decide) entry.nameParts)
      (equals_not_mem isKey) named).1
    rw [(isSize_iff entry).mpr (nameEq ▸ isKey)] at other
    cases other
  have passed : dropSizes (last :: ((entry.name ++ ['=', '"']) ++ behind)) =
      last :: dropSizes ((entry.name ++ ['=', '"']) ++ behind) := Recogniser.rewrite_of_none refused
  rw [text, text, dropSizes_append_of_blank blank lastBlank, passed,
    dropSizes_append_of_solid solid]

theorem dropSizes_size {entry : Attribute} (size : entry.isSize = true) (behind : Text) :
    dropSizes (entry.print ++ behind) = entry.unsized ++ dropSizes behind := by
  obtain ⟨blanks, last, shape, blank, lastBlank⟩ := entry.gap.exists_last
  obtain ⟨hit, taken, restEq⟩ :=
    recognise_written lastBlank ((isSize_iff entry).mp size) entry.plain behind
  have text : entry.print ++ behind =
      blanks ++ (last :: entry.name ++ '=' :: '"' :: (entry.value ++ '"' :: behind)) := by
    simp [Attribute.print, Element.quoted, shape]
  have dropped : dropSizes (last :: entry.name ++ '=' :: '"' :: (entry.value ++ '"' :: behind)) =
      dropSizes behind := by
    rw [dropSizes, Recogniser.rewrite_of_some taken, restEq]
    rfl
  rw [text, Attribute.unsized, if_pos size, shape, List.dropLast_concat, ← dropped]
  exact dropSizes_append_of_blank blank lastBlank _

/-- An attribute loses its size and nothing else. -/
theorem dropSizes_attribute {entry : Attribute}
    (quiet : entry.isSize = false → ¬ EndsInKey entry.value) (behind : Text) :
    dropSizes (entry.print ++ behind) = entry.unsized ++ dropSizes behind := by
  cases size : entry.isSize with
  | true => exact dropSizes_size size behind
  | false =>
    rw [Attribute.unsized, if_neg (by rw [size]; decide), print_eq_opened, List.append_assoc,
      List.append_assoc, dropSizes_opened size, List.singleton_append,
      dropSizes_value entry.plain (quiet size)]
    simp

/-- Attributes whose values do not end in a key, apart from sizes and the last attribute. -/
def IsQuietTag (attributes : List Attribute) : Prop :=
  ∀ ahead entry next behind, attributes = ahead ++ entry :: next :: behind →
    entry.isSize = false → ¬ EndsInKey entry.value

/-- Attributes whose values do not end in `=` are quiet. -/
theorem isQuietTag_of_getLast? {attributes : List Attribute}
    (others : ∀ entry ∈ attributes, entry.value.getLast? ≠ some '=') : IsQuietTag attributes := by
  rintro ahead entry next behind rfl - ⟨words, _, ⟨blank, key, -, -, rfl⟩, value⟩
  refine others entry (by simp) ?_
  rw [value, ← List.cons_append, ← List.append_assoc, List.getLast?_concat]

/-- Attributes lose their sizes and nothing else. -/
theorem dropSizes_attributes {attributes : List Attribute}
    (quiet : ∀ entry ∈ attributes, entry.isSize = false → ¬ EndsInKey entry.value)
    (behind : Text) : dropSizes (printAttributes attributes ++ behind) =
      printUnsized attributes ++ dropSizes behind := by
  induction attributes with
  | nil => rfl
  | cons entry attributes ih =>
    rw [List.forall_mem_cons] at quiet
    rw [printAttributes_cons, List.append_assoc, dropSizes_attribute quiet.1, ih quiet.2]
    simp [printUnsized]

/-- The last attribute may end in a key, since no quote follows. -/
theorem dropSizes_last {entry : Attribute} {behind : Text} (free : '"' ∉ behind) :
    dropSizes (entry.print ++ behind) = entry.unsized ++ behind := by
  have count : behind.count '"' = 0 := List.count_eq_zero.mpr free
  cases size : entry.isSize with
  | true => rw [dropSizes_size size, dropSizes_of_count (by omega)]
  | false =>
    have few : (entry.value ++ '"' :: behind).count '"' ≤ 1 := by
      simp [List.count_append, count, List.count_eq_zero.mpr entry.plain]
    have shape : entry.print ++ behind = entry.opened ++ (entry.value ++ '"' :: behind) := by
      simp [print_eq_opened]
    rw [Attribute.unsized, if_neg (by rw [size]; decide), shape, dropSizes_opened size,
      dropSizes_of_count few]

/-- **Of attributes all but the sizes stays**, if none of their values ends in a key that a quote
follows. -/
theorem dropSizes_front {front back : List Attribute} (quiet : IsQuietTag (front ++ back))
    {behind : Text} (few : behind.count '"' ≤ 1) (last : back = [] → '"' ∉ behind) :
    dropSizes (printAttributes front ++ behind) = printUnsized front ++ behind := by
  rcases List.eq_nil_or_concat' front with rfl | ⟨front, entry, rfl⟩
  · exact dropSizes_of_count few
  · have early : ∀ other ∈ front, other.isSize = false → ¬ EndsInKey other.value := by
      intro other member
      obtain ⟨ahead, between, rfl⟩ := List.append_of_mem member
      obtain ⟨next, rest, shape⟩ : ∃ next rest, between ++ [entry] ++ back = next :: rest := by
        cases between <;> exact ⟨_, _, rfl⟩
      exact quiet ahead other next rest (by rw [← shape]; simp)
    have final : dropSizes (entry.print ++ behind) = entry.unsized ++ behind := by
      cases back with
      | nil => exact dropSizes_last (last rfl)
      | cons next rest =>
        rw [dropSizes_attribute (quiet front entry next rest (by simp)), dropSizes_of_count few]
    have shape : printAttributes (front ++ [entry]) ++ behind =
        printAttributes front ++ (entry.print ++ behind) := by simp [printAttributes]
    rw [shape, dropSizes_attributes early, final]
    simp [printUnsized]

theorem length_unsized_le (entry : Attribute) : entry.unsized.length ≤ entry.print.length := by
  unfold Attribute.unsized
  split
  · simp only [Attribute.print, List.length_dropLast, List.length_append]
    omega
  · exact Nat.le_refl _

theorem length_printUnsized_le (attributes : List Attribute) :
    (printUnsized attributes).length ≤ (printAttributes attributes).length := by
  induction attributes with
  | nil => exact Nat.le_refl _
  | cons entry attributes ih =>
    have own := length_unsized_le entry
    simp only [printUnsized, printAttributes, List.flatMap_cons, List.length_append] at ih ⊢
    omega

/-- Nothing is dropped exactly if there is no size. -/
theorem printUnsized_eq_iff {attributes : List Attribute} :
    printUnsized attributes = printAttributes attributes ↔
      ∀ entry ∈ attributes, entry.isSize = false := by
  constructor
  · intro same entry member
    by_contra size
    rw [Bool.not_eq_false] at size
    obtain ⟨ahead, behind, rfl⟩ := List.append_of_mem member
    have gone : entry.unsized.length < entry.print.length := by
      rw [Attribute.unsized, if_pos size]
      simp only [Attribute.print, Element.quoted, List.length_dropLast, List.length_append,
        List.length_cons]
      omega
    have lengths := congrArg List.length same
    have front := length_printUnsized_le ahead
    have back := length_printUnsized_le behind
    simp only [printUnsized, printAttributes, List.flatMap_append, List.flatMap_cons,
      List.length_append] at lengths front back
    omega
  · intro none
    refine List.flatMap_congr fun entry member => ?_
    rw [Attribute.unsized, if_neg (by rw [none entry member]; decide)]

end Document

end IconComponents
