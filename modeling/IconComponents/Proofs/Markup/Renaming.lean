/-
**What the pass over dashed names changes in well-formed markup.**

A dashed name counts behind white space and in front of `=`, wherever that is in the text. In a tag
this is where the names of attributes stand; but values and words can hold white space and `=`, too.

* `stopsAt_border` — no name reaches over a quote or a bracket, so the pass works on every value and
  on the words behind every tag alone;
* `camelizeDashed_eq_self_iff` — the texts that the pass keeps, exactly;
* `camelizeDashed_markup` — what it makes of well-formed markup, and which values stay as they are;
* `camelizeDashed_changes_value` — a value that it changes.
-/

import IconComponents.Proofs.Markup.Document
import IconComponents.Proofs.Name.TitleCase
import IconComponents.Proofs.Text.Pieces

namespace IconComponents

namespace DashedName

variable {text key : Text} {c border : Char}

/-! ### Where a dashed name stands -/

theorem starts_with_letter (dashed : isDashedName key = true) :
    ∃ first rest, key = first :: rest ∧ first.isAlpha = true := by
  obtain ⟨-, dashed⟩ := Bool.and_eq_true_iff.mp dashed
  simp only [isDashed, Bool.and_eq_true] at dashed
  cases key with
  | nil => exact absurd dashed.1.1 (by decide)
  | cons first rest => exact ⟨first, rest, rfl, dashed.1.1⟩

theorem two_words (dashed : isDashedName key = true) :
    2 ≤ (Text.splitWhere isJoint key).length := by
  obtain ⟨-, dashed⟩ := Bool.and_eq_true_iff.mp dashed
  simp only [isDashed, Bool.and_eq_true] at dashed
  exact of_decide_eq_true dashed.1.2

/-- What is read is what is written, and the rest is behind it. -/
theorem shape_of_recognise {hit : Hit DashedName text} (found : recognise text = some hit) :
    ∃ blank key, Char.isBlank blank = true ∧ isDashedName key = true ∧
      text = blank :: key ++ '=' :: hit.rest ∧ hit.value = ⟨blank, key⟩ := by
  obtain ⟨blank, key, rest, isBlank, dashed, rfl⟩ := key_of_recognise found
  obtain ⟨same, taken, value, restEq⟩ := recognise_written isBlank dashed rest
  rw [found] at taken
  cases taken
  exact ⟨blank, key, isBlank, dashed, by rw [restEq], value⟩

/-- A letter stands behind the white space. -/
theorem recognise_eq_none_of_not_alpha {next : Char} (other : next.isAlpha = false) (rest : Text) :
    recognise (c :: next :: rest) = none := by
  rw [Option.eq_none_iff_forall_ne_some]
  intro hit found
  obtain ⟨blank, key, behind, -, dashed, start⟩ := key_of_recognise found
  obtain ⟨first, key, rfl, letter⟩ := starts_with_letter dashed
  rw [(List.cons.inj (List.cons.inj start).2).1, letter] at other
  cases other

theorem recognise_eq_none_of_solid (solid : Char.isBlank c = false) (rest : Text) :
    recognise (c :: rest) = none := by
  rw [Option.eq_none_iff_forall_ne_some]
  intro hit found
  obtain ⟨blank, key, behind, isBlank, -, start⟩ := key_of_recognise found
  rw [(List.cons.inj start).1, isBlank] at solid
  cases solid

/-- No dashed name starts at characters that are no white space. -/
theorem refuses_of_solid {stretch : Text} (solid : ∀ c ∈ stretch, Char.isBlank c = false)
    (behind : Text) : recognise.Refuses stretch behind :=
  Recogniser.refuses_of_forall (fun _ rest passes => recognise_eq_none_of_solid passes rest) solid
    behind

/-- Characters that no dashed name with its surroundings holds. -/
structure IsBorder (border : Char) : Prop where
  solid : Char.isBlank border = false
  foreign : (isWordPart border || isJoint border) = false
  other : border ≠ '='

/-- **No dashed name reaches a border.** -/
theorem stopsAt_border (isBorder : IsBorder border) : recognise.StopsAt border where
  head := recognise_eq_none_of_solid isBorder.solid
  refused c text behind refused := by
    rw [Option.eq_none_iff_forall_ne_some]
    intro hit found
    obtain ⟨blank, key, rest, isBlank, dashed, start⟩ := key_of_recognise found
    obtain ⟨rfl, named⟩ := List.cons.inj start
    obtain ⟨gap, rfl, -⟩ := Text.name_before_border
      (Element.Attribute.isDashedName_parts dashed isBorder.foreign) isBorder.other named
    obtain ⟨hit, taken, -⟩ := recognise_written isBlank dashed gap
    cases refused.symm.trans taken
  taken text hit behind found := by
    obtain ⟨blank, key, isBlank, dashed, shape, value⟩ := shape_of_recognise found
    have longerShape : text ++ border :: behind =
        blank :: key ++ '=' :: (hit.rest ++ border :: behind) := by
      conv => lhs; rw [shape]
      simp
    rw [longerShape]
    obtain ⟨longer, found', value', rest'⟩ :=
      recognise_written isBlank dashed (hit.rest ++ border :: behind)
    exact ⟨longer, found', value'.trans value.symm, rest'⟩

end DashedName

open DashedName

variable {text : Text}

/-! ### Texts that are kept -/

/-- Somewhere in a text a dashed name stands between white space and `=`. -/
def HoldsDashedName (text : Text) : Prop :=
  ∃ ahead blank key rest, Char.isBlank blank = true ∧ isDashedName key = true ∧
    text = ahead ++ (blank :: key ++ '=' :: rest)

theorem hits_dashed_eq_nil_iff :
    Recogniser.hits recognise text = [] ↔ ¬ HoldsDashedName text := by
  rw [Recogniser.hits_eq_nil_iff]
  constructor
  · rintro refuses ⟨ahead, blank, key, rest, isBlank, dashed, rfl⟩
    have refused := refuses ahead (blank :: key ++ '=' :: rest) rfl (List.cons_ne_nil _ _)
    obtain ⟨hit, taken, -⟩ := recognise_written isBlank dashed rest
    rw [List.append_nil, taken] at refused
    cases refused
  · intro without ahead tail split _
    rw [List.append_nil, Option.eq_none_iff_forall_ne_some]
    intro hit found
    obtain ⟨blank, key, rest, isBlank, dashed, rfl⟩ := key_of_recognise found
    exact without ⟨ahead, blank, key, rest, isBlank, dashed, split⟩

theorem length_camelFrom (capital : Bool) (name : Text) :
    (camelFrom capital name).length = (name.filter (!isJoint ·)).length := by
  induction name generalizing capital with
  | nil => rfl
  | cons c name ih =>
    by_cases joint : isJoint c = true <;> simp [camelFrom, joint, ih]

/-- In camel case a dashed name is shorter. -/
theorem length_camelCase_lt {key : Text} (dashed : isDashedName key = true) :
    (camelCase key).length < key.length := by
  rw [camelCase, length_camelFrom, List.length_filter_lt_length_iff_exists]
  by_contra solid
  have free : ∀ c ∈ key, isJoint c = false := by simpa using solid
  have parts := two_words dashed
  rw [Text.splitWhere_of_free free, List.length_singleton] at parts
  omega

/-- Every name that is changed makes the text shorter. -/
theorem length_camelizeDashed_le (text : Text) :
    (camelizeDashed text).length + (Recogniser.hits recognise text).length ≤ text.length := by
  unfold camelizeDashed
  induction text using Recogniser.scan_induction recognise with
  | nil => simp
  | plain c text refused ih =>
    rw [Recogniser.rewrite_of_none refused, Recogniser.hits_of_none refused, List.length_cons,
      List.length_cons]
    omega
  | hit text hit found ih =>
    obtain ⟨blank, key, -, dashed, shape, value⟩ := shape_of_recognise found
    have shorter := length_camelCase_lt dashed
    have size := congrArg List.length shape
    rw [Recogniser.rewrite_of_some found, Recogniser.hits_of_some found, value]
    simp only [List.length_append, List.length_cons, List.length_nil] at size ⊢
    omega

/-- **The texts that are kept** are those without a dashed name between white space and `=`. -/
theorem camelizeDashed_eq_self_iff : camelizeDashed text = text ↔ ¬ HoldsDashedName text := by
  rw [← hits_dashed_eq_nil_iff]
  constructor
  · intro kept
    have bound := length_camelizeDashed_le text
    rw [kept] at bound
    exact List.length_eq_zero_iff.mp (by omega)
  · exact Recogniser.rewrite_eq_self

/-! ### Well-formed markup -/

theorem camelizeDashed_append_cons {border : Char} (isBorder : IsBorder border)
    (text behind : Text) : camelizeDashed (text ++ border :: behind) =
      camelizeDashed text ++ border :: camelizeDashed behind :=
  Recogniser.rewrite_append_cons (stopsAt_border isBorder) text behind

/-- What starts with no white space, or goes on with no letter behind it, is passed over. -/
theorem camelizeDashed_cons {c : Char} {behind : Text}
    (refused : recognise (c :: behind) = none) :
    camelizeDashed (c :: behind) = c :: camelizeDashed behind :=
  Recogniser.rewrite_of_none refused

theorem camelizeDashed_append_of_solid {stretch : Text}
    (solid : ∀ c ∈ stretch, Char.isBlank c = false) (behind : Text) :
    camelizeDashed (stretch ++ behind) = stretch ++ camelizeDashed behind :=
  Recogniser.rewrite_append_of_refuses (refuses_of_solid solid behind)

theorem camelizeDashed_append_of_not_alpha {stretch : Text} {next : Char}
    (other : ∀ c ∈ stretch, c.isAlpha = false) (nextOther : next.isAlpha = false) (behind : Text) :
    camelizeDashed (stretch ++ next :: behind) = stretch ++ camelizeDashed (next :: behind) :=
  Recogniser.rewrite_append_of_refuses <| Recogniser.refuses_of_next
    (fun _ _ rest passes => recognise_eq_none_of_not_alpha passes rest) other nextOther behind

theorem not_isAlpha_of_isBlank {c : Char} (blank : Char.isBlank c = true) : c.isAlpha = false := by
  by_contra letter
  have alphanum : c.isAlphanum = true := by
    show (c.isAlpha || c.isDigit) = true
    rw [Bool.not_eq_false] at letter
    rw [letter, Bool.true_or]
  have solid : Char.isBlank c = false :=
    Text.of_isAlphanum (P := fun c => Char.isBlank c = false) (by decide +kernel) alphanum
  rw [blank] at solid
  cases solid

namespace Document

/-- A name behind white space is written in camel case if it is dashed. -/
theorem camelizeDashed_name {blank : Char} (isBlank : Char.isBlank blank = true) {name : Text}
    (nameParts : ∀ c ∈ name, isNamePart c = true) (behind : Text) :
    camelizeDashed (blank :: (name ++ '=' :: behind)) =
      blank :: (Element.componentName name ++ '=' :: camelizeDashed behind) := by
  rw [Element.componentName]
  by_cases dashed : isDashedName name = true
  · obtain ⟨hit, taken, value, rest⟩ := recognise_written isBlank dashed behind
    rw [if_pos dashed]
    show Recogniser.rewrite recognise _ (blank :: name ++ '=' :: behind) = _
    rw [Recogniser.rewrite_of_some taken, value, rest]
    simp [camelizeDashed]
  · have refused : recognise (blank :: (name ++ '=' :: behind)) = none := by
      rw [Option.eq_none_iff_forall_ne_some]
      intro hit found
      obtain ⟨_, key, rest, -, dashed', start⟩ := key_of_recognise found
      have free : '=' ∉ name := not_mem_of_nameParts (by decide) nameParts
      have named := (Text.append_cons_inj free
        (Element.Attribute.isDashedName_parts dashed' (by decide)) (List.cons.inj start).2).1
      exact dashed (named ▸ dashed')
    have solid : ∀ c ∈ name ++ ['='], Char.isBlank c = false := by
      intro c member
      rcases List.mem_append.mp member with part | last
      · exact not_isBlank_of_isNamePart (nameParts c part)
      · rw [List.mem_singleton.mp last]
        decide
    have passed := camelizeDashed_append_of_solid solid behind
    rw [List.append_assoc, List.append_assoc, List.singleton_append, List.singleton_append] at passed
    rw [if_neg dashed, camelizeDashed_cons refused, passed]

/-! ### The markup that comes out -/

theorem isNamePart_of_isWordPart {c : Char} (part : isWordPart c = true) : isNamePart c = true := by
  rcases Bool.or_eq_true_iff.mp part with solid | underscore
  · exact Text.of_isAlphanum (P := fun c => isNamePart c = true) (by decide +kernel) solid
  · rw [of_decide_eq_true underscore]
    decide

theorem isWordPart_toUpper {c : Char} (part : isWordPart c = true) : isWordPart c.toUpper = true := by
  rcases Bool.or_eq_true_iff.mp part with solid | underscore
  · exact Bool.or_eq_true_iff.mpr (Or.inl (Name.isAlphanum_toUpper solid))
  · rw [of_decide_eq_true underscore]
    decide

/-- A name in camel case is made of letters, digits and underscores. -/
theorem isWordPart_of_mem_camelFrom {capital : Bool} {name : Text} {c : Char}
    (parts : ∀ c ∈ name, (isWordPart c || isJoint c) = true) (member : c ∈ camelFrom capital name) :
    isWordPart c = true := by
  induction name generalizing capital with
  | nil => cases member
  | cons first name ih =>
    rw [List.forall_mem_cons] at parts
    unfold camelFrom at member
    split at member
    · exact ih parts.2 member
    · next solid =>
      have part : isWordPart first = true :=
        (Bool.or_eq_true_iff.mp parts.1).resolve_right solid
      rcases List.mem_cons.mp member with rfl | member
      · split
        · exact isWordPart_toUpper part
        · exact part
      · exact ih parts.2 member

theorem isWordPart_of_mem_camelCase {key : Text} (dashed : isDashedName key = true) {c : Char}
    (member : c ∈ camelCase key) : isWordPart c = true :=
  isWordPart_of_mem_camelFrom (List.all_eq_true.mp (Bool.and_eq_true_iff.mp dashed).1) member

/-- Apart from letters, digits and underscores no character is new. -/
theorem mem_of_mem_camelizeDashed {text : Text} {c : Char} (member : c ∈ camelizeDashed text) :
    c ∈ text ∨ isWordPart c = true := by
  unfold camelizeDashed at member
  induction text using Recogniser.scan_induction recognise with
  | nil =>
    rw [Recogniser.rewrite_nil] at member
    cases member
  | plain first text refused ih =>
    rw [Recogniser.rewrite_of_none refused] at member
    rcases List.mem_cons.mp member with rfl | member
    · exact Or.inl List.mem_cons_self
    · exact (ih member).imp_left (List.mem_cons_of_mem _)
  | hit text hit found ih =>
    obtain ⟨blank, key, -, dashed, shape, value⟩ := shape_of_recognise found
    have inText : c ∈ text ↔ c ∈ blank :: key ++ '=' :: hit.rest := by rw [← shape]
    rw [Recogniser.rewrite_of_some found, value] at member
    simp only [List.mem_append, List.mem_cons, List.not_mem_nil, or_false] at member inText
    rw [inText]
    rcases member with ((blankEq | camel) | equals) | behind
    · exact Or.inl (Or.inl (Or.inl blankEq))
    · exact Or.inr (isWordPart_of_mem_camelCase dashed camel)
    · exact Or.inl (Or.inr (Or.inl equals))
    · exact (ih behind).imp_left fun inRest => Or.inr (Or.inr inRest)

theorem not_mem_camelizeDashed {text : Text} {c : Char} (foreign : isWordPart c = false)
    (free : c ∉ text) : c ∉ camelizeDashed text := fun member => by
  rcases mem_of_mem_camelizeDashed member with inText | part
  · exact free inText
  · rw [foreign] at part
    cases part

theorem componentName_parts {name : Text} (nameParts : ∀ c ∈ name, isNamePart c = true) :
    ∀ c ∈ Element.componentName name, isNamePart c = true := by
  unfold Element.componentName
  split
  · next dashed =>
    exact fun c member => isNamePart_of_isWordPart (isWordPart_of_mem_camelCase dashed member)
  · exact nameParts

theorem componentName_ne_nil {name : Text} (named : name ≠ []) :
    Element.componentName name ≠ [] := by
  unfold Element.componentName
  split
  · next dashed =>
    obtain ⟨first, rest, rfl, letter⟩ := starts_with_letter dashed
    have solid : ¬ isJoint first = true := by
      intro joint
      rcases Bool.or_eq_true_iff.mp joint with same | same <;>
      · rw [of_decide_eq_true same] at letter
        exact absurd letter (by decide)
    rw [camelCase, camelFrom, if_neg solid]
    exact List.cons_ne_nil _ _
  · exact named

/-- An attribute behind the pass. -/
def Attribute.camelized (entry : Attribute) : Attribute where
  gap := entry.gap
  name := Element.componentName entry.name
  value := camelizeDashed entry.value
  named := componentName_ne_nil entry.named
  nameParts := componentName_parts entry.nameParts
  plain := not_mem_camelizeDashed (by decide) entry.plain
  flat := not_mem_camelizeDashed (by decide) entry.flat

/-- A tag behind the pass. -/
def Tag.camelized (tag : Tag) : Tag where
  name := tag.name
  attributes := tag.attributes.map Attribute.camelized
  ending := tag.ending
  words := camelizeDashed tag.words
  named := tag.named
  nameParts := tag.nameParts
  ends := tag.ends
  flat := not_mem_camelizeDashed (by decide) tag.flat

/-- Markup behind the pass: dashed names of attributes in camel case, each value and the words
behind each tag changed as texts of their own, and all else kept. -/
def Markup.camelized (markup : Markup) : Markup where
  words := camelizeDashed markup.words
  tags := markup.tags.map Tag.camelized
  flat := not_mem_camelizeDashed (by decide) markup.flat

/-! ### The pass over well-formed markup -/

theorem camelizeDashed_attribute (entry : Attribute) (behind : Text) :
    camelizeDashed (entry.print ++ behind) = entry.camelized.print ++ camelizeDashed behind := by
  obtain ⟨blanks, last, shape, blank, lastBlank⟩ := entry.gap.exists_last
  have ahead : ∀ c ∈ blanks, c.isAlpha = false := fun c member =>
    not_isAlpha_of_isBlank (blank c member)
  have quote : IsBorder '"' := ⟨by decide, by decide, by decide⟩
  have text : entry.print ++ behind =
      blanks ++ last :: (entry.name ++ '=' :: '"' :: (entry.value ++ '"' :: behind)) := by
    simp [Attribute.print, Element.quoted, shape]
  rw [text, camelizeDashed_append_of_not_alpha ahead (not_isAlpha_of_isBlank lastBlank),
    camelizeDashed_name lastBlank entry.nameParts,
    camelizeDashed_cons (recognise_eq_none_of_solid quote.solid _),
    camelizeDashed_append_cons quote]
  simp [Attribute.print, Attribute.camelized, Element.quoted, shape]

theorem camelizeDashed_attributes (attributes : List Attribute) (behind : Text) :
    camelizeDashed (printAttributes attributes ++ behind) =
      printAttributes (attributes.map Attribute.camelized) ++ camelizeDashed behind := by
  induction attributes with
  | nil => rfl
  | cons entry attributes ih =>
    rw [printAttributes_cons, List.append_assoc, camelizeDashed_attribute, ih, List.map_cons,
      printAttributes_cons, List.append_assoc]

/-- Words end where the next tag starts. -/
theorem camelizeDashed_words (words : Text) (tags : List Tag) :
    camelizeDashed (words ++ printTags tags) =
      camelizeDashed words ++ camelizeDashed (printTags tags) := by
  cases tags with
  | nil =>
    show camelizeDashed (words ++ []) = camelizeDashed words ++ camelizeDashed []
    rw [List.append_nil, camelizeDashed, camelizeDashed, Recogniser.rewrite_nil, List.append_nil]
  | cons tag tags =>
    have bracket : IsBorder '<' := ⟨by decide, by decide, by decide⟩
    rw [printTags_cons, List.cons_append, camelizeDashed_append_cons bracket,
      camelizeDashed_cons (recognise_eq_none_of_solid bracket.solid _)]

theorem camelizeDashed_tags (tags : List Tag) :
    camelizeDashed (printTags tags) = printTags (tags.map Tag.camelized) := by
  induction tags with
  | nil => exact Recogniser.rewrite_nil
  | cons tag tags ih =>
    have name : ∀ c ∈ '<' :: tag.name, Char.isBlank c = false := by
      rw [List.forall_mem_cons]
      exact ⟨by decide, fun c member => not_isBlank_of_isNamePart (tag.nameParts c member)⟩
    have ending : ∀ c ∈ tag.ending, c.isAlpha = false := by
      intro c member
      rcases tag.ends c member with blank | rfl | rfl
      · exact not_isAlpha_of_isBlank blank
      · decide
      · decide
    rw [printTags_cons, camelizeDashed_append_of_solid name, camelizeDashed_attributes,
      camelizeDashed_append_of_not_alpha ending (by decide),
      camelizeDashed_cons (recognise_eq_none_of_solid (by decide) _), camelizeDashed_words, ih,
      List.map_cons, printTags_cons]
    rfl

theorem attributes_camelized (markup : Markup) :
    markup.camelized.attributes = markup.attributes.map Attribute.camelized := by
  simp [Markup.attributes, Markup.camelized, Tag.camelized, List.flatMap_map, List.map_flatMap]

/-- **What becomes of well-formed markup.** It stays well formed: the names of attributes are
written in camel case if they are dashed, each value and the words behind each tag are changed as
texts of their own, and all else is kept. The values stay as they are exactly if no dashed name
stands in one of them between white space and `=`. -/
theorem camelizeDashed_markup (markup : Markup) :
    camelizeDashed markup.print = markup.camelized.print ∧
      (markup.camelized.attributes.map (·.value) = markup.attributes.map (·.value) ↔
        ∀ value ∈ markup.attributes.map (·.value), ¬ HoldsDashedName value) := by
  constructor
  · rw [Markup.print, camelizeDashed_words, camelizeDashed_tags]
    rfl
  · rw [attributes_camelized, List.map_map, List.map_inj_left, List.forall_mem_map]
    exact forall₂_congr fun entry _ => camelizeDashed_eq_self_iff

/-- The element `<path id="a stroke-width=b"/>`. -/
def describedPath : Markup := .path [.spaced "id".toList "a stroke-width=b".toList rfl rfl]

/-- **A value that is changed**: the name in it stands between white space and `=`. -/
theorem camelizeDashed_changes_value :
    describedPath.print = "<path id=\"a stroke-width=b\"/>".toList ∧
      camelizeDashed describedPath.print = "<path id=\"a strokeWidth=b\"/>".toList := by
  decide +kernel

end Document

end IconComponents
