/-
**The names that become camel case, and the text around them.**

The scan for dashed names cuts a text at every place where one stands between white space and `=`:
the white space in front of a name is in no other name, so two such places never overlap. Between
them nothing changes, and what comes out holds no dashed name at such a place any more.

* `DashedName.IsCut`, `isCut_scan` — a text cut at every dashed name that counts, and nowhere else;
* `CamelSpelling`, `camelSpelling_camelCase` — how a name in camel case is made of the dashed one;
* `hits_camelizeDashed` — none arises where a name in camel case meets the text around it;
* `camelizeDashed_names` — all of this for any text.
-/

import IconComponents.Proofs.Markup.Renaming
import IconComponents.Proofs.Text.Order

namespace IconComponents

/-- The text of a segment, with `render` for what was taken. -/
def Segment.text {α : Type} (render : α → Text) : Segment α → Text
  | plain c => [c]
  | hit value => render value

namespace DashedName

/-- A dashed name as it stands in markup: white space, the name, and `=`. -/
def written (found : DashedName) : Text := found.blank :: found.name ++ ['=']

theorem written_append (found : DashedName) (rest : Text) :
    found.written ++ rest = found.blank :: (found.name ++ '=' :: rest) := by simp [written]

/-- The same place with the name in camel case. -/
def camelized (found : DashedName) : DashedName := ⟨found.blank, camelCase found.name⟩

theorem not_isBlank_of_part {c : Char} (part : (isWordPart c || isJoint c) = true) :
    Char.isBlank c = false := by
  refine Element.not_isBlank ?_
  simp only [isWordPart, isJoint, Element.isNameChar, Bool.or_eq_true] at part ⊢
  tauto

/-- Behind its white space a dashed name with its `=` holds none. -/
theorem solid_of_dashed {key : Text} (dashed : isDashedName key = true) :
    ∀ c ∈ key ++ ['='], Char.isBlank c = false := by
  intro c member
  rcases List.mem_append.mp member with inKey | last
  · exact not_isBlank_of_part (List.all_eq_true.mp (Bool.and_eq_true_iff.mp dashed).1 c inKey)
  · rw [List.mem_singleton.mp last]
    decide

/-! ### The cut -/

/-- A text cut at every place where a dashed name counts, between white space and `=`, and nowhere
else. Nothing is lost. -/
structure IsCut (text : Text) (segments : List (Segment DashedName)) : Prop where
  whole : text = segments.flatMap (Segment.text written)
  dashed : ∀ found, Segment.hit found ∈ segments →
    Char.isBlank found.blank = true ∧ isDashedName found.name = true
  everyPlace : ∀ ahead found rest, Char.isBlank found.blank = true →
    isDashedName found.name = true → text = ahead ++ (found.written ++ rest) →
    ∃ front back, segments = front ++ Segment.hit found :: back ∧
      front.flatMap (Segment.text written) = ahead

theorem recognise_of_written {found : DashedName} (isBlank : Char.isBlank found.blank = true)
    (dashed : isDashedName found.name = true) (rest : Text) :
    ∃ hit, recognise (found.written ++ rest) = some hit ∧ hit.value = found ∧ hit.rest = rest := by
  rw [written_append]
  exact recognise_written isBlank dashed rest

/-- What is recognised is a dashed name as it is written. -/
theorem written_of_recognise {text : Text} {hit : Hit DashedName text}
    (taken : recognise text = some hit) : Char.isBlank hit.value.blank = true ∧
      isDashedName hit.value.name = true ∧ text = hit.value.written ++ hit.rest := by
  obtain ⟨blank, key, isBlank, dashed, shape, value⟩ := shape_of_recognise taken
  rw [value]
  exact ⟨isBlank, dashed, shape.trans (written_append ⟨blank, key⟩ hit.rest).symm⟩

/-- Two dashed names do not overlap: the second one starts with its white space. -/
theorem ahead_of_second {first second : DashedName} {ahead rest rest' : Text}
    (dashed : isDashedName first.name = true) (isBlank : Char.isBlank second.blank = true)
    (nonempty : ahead ≠ []) (same : first.written ++ rest = ahead ++ (second.written ++ rest')) :
    ∃ gap, ahead = first.written ++ gap ∧ rest = gap ++ (second.written ++ rest') := by
  rcases List.append_eq_append_iff.mp same with found | ⟨gap, writtenEq, behindEq⟩
  · exact found
  cases gap with
  | nil => exact ⟨[], by rw [writtenEq, List.append_nil, List.append_nil], behindEq.symm⟩
  | cons c gap =>
    obtain ⟨start, ahead, rfl⟩ := List.exists_cons_of_ne_nil nonempty
    have inFirst : first.name ++ ['='] = ahead ++ c :: gap := (List.cons.inj writtenEq).2
    have solid : Char.isBlank c = false :=
      solid_of_dashed dashed c (inFirst ▸ List.mem_append_right _ List.mem_cons_self)
    rw [← (List.cons.inj behindEq).1, isBlank] at solid
    cases solid

/-- **The scan for dashed names** cuts a text at every one that counts. -/
theorem isCut_scan (text : Text) : IsCut text (Recogniser.scan recognise text) := by
  induction text using Recogniser.scan_induction recognise with
  | nil =>
    refine ⟨by simp, by simp, fun ahead found rest _ _ split => ?_⟩
    simp [written] at split
  | plain c text refused ih =>
    rw [Recogniser.scan_of_none refused]
    refine ⟨congrArg (c :: ·) ih.whole, fun found member => ih.dashed found (by simpa using member),
      fun ahead found rest isBlank dashed split => ?_⟩
    cases ahead with
    | nil =>
      obtain ⟨hit, taken, -⟩ := recognise_of_written isBlank dashed rest
      rw [List.nil_append] at split
      rw [split, taken] at refused
      cases refused
    | cons first ahead =>
      obtain ⟨rfl, behind⟩ := List.cons.inj split
      obtain ⟨front, back, cut, aheadEq⟩ := ih.everyPlace ahead found rest isBlank dashed behind
      exact ⟨.plain c :: front, back, by rw [cut, List.cons_append],
        congrArg (c :: ·) aheadEq⟩
  | hit text hit taken ih =>
    obtain ⟨isBlank, dashed, shape⟩ := written_of_recognise taken
    rw [Recogniser.scan_of_some taken]
    refine ⟨?_, fun found member => ?_, fun ahead found rest isBlank' dashed' split => ?_⟩
    · rw [List.flatMap_cons, ← ih.whole]
      exact shape
    · rcases List.mem_cons.mp member with same | member
      · cases same
        exact ⟨isBlank, dashed⟩
      · exact ih.dashed found member
    · cases ahead with
      | nil =>
        obtain ⟨other, taken', value, -⟩ := recognise_of_written isBlank' dashed' rest
        obtain rfl : text = found.written ++ rest := split
        rw [taken] at taken'
        cases taken'
        exact ⟨[], _, by rw [value]; rfl, rfl⟩
      | cons first ahead =>
        obtain ⟨gap, aheadEq, restEq⟩ := ahead_of_second dashed isBlank' (List.cons_ne_nil _ _)
          (shape.symm.trans split)
        obtain ⟨front, back, cut, gapEq⟩ := ih.everyPlace gap found rest isBlank' dashed' restEq
        refine ⟨.hit hit.value :: front, back, by rw [cut, List.cons_append], ?_⟩
        rw [List.flatMap_cons, gapEq, aheadEq]
        rfl

theorem mem_dashedNames {markup name : Text} : name ∈ dashedNames markup ↔
    ∃ blank, Segment.hit ⟨blank, name⟩ ∈ Recogniser.scan recognise markup := by
  rw [dashedNames, Text.mem_sortedDistinct, List.mem_map]
  constructor
  · rintro ⟨found, member, rfl⟩
    obtain ⟨segment, inScan, taken⟩ := List.mem_filterMap.mp member
    cases segment with
    | plain c => cases taken
    | hit value =>
      cases taken
      exact ⟨found.blank, inScan⟩
  · rintro ⟨blank, inScan⟩
    exact ⟨⟨blank, name⟩, List.mem_filterMap.mpr ⟨_, inScan, rfl⟩, rfl⟩

/-! ### Names in camel case -/

/-- `camel` is the dashed `name` in camel case: a letter and then letters, digits and underscores,
the same ones as in `name` up to letter case, without its joints. -/
structure CamelSpelling (name camel : Text) : Prop where
  first : ∃ letter rest, camel = letter :: rest ∧ letter.isAlpha = true
  parts : ∀ c ∈ camel, c.isAlphanum = true ∨ c = '_'
  letters : Text.lower camel = Text.lower (name.filter (!isJoint ·))

/-- Respelling a name changes capitals and drops joints, and nothing else. -/
theorem lower_camelFrom (name : Text) (capital : Bool) :
    Text.lower (camelFrom capital name) = Text.lower (name.filter (!isJoint ·)) := by
  induction name generalizing capital with
  | nil => rfl
  | cons c name ih =>
    by_cases joint : isJoint c = true
    · rw [camelFrom, if_pos joint, ih, List.filter_cons_of_neg (by simp [joint])]
    · have letter : (if capital then c.toUpper else c).toLower = c.toLower := by
        cases capital with
        | false => rfl
        | true => exact Text.toLower_toUpper c
      rw [camelFrom, if_neg joint, List.filter_cons_of_pos (by simpa using joint), Text.lower,
        Text.lower, List.map_cons, List.map_cons, letter]
      exact congrArg (c.toLower :: ·) (ih false)

theorem not_isJoint_of_isAlpha {c : Char} (letter : c.isAlpha = true) : isJoint c = false := by
  cases joint : isJoint c with
  | false => rfl
  | true =>
    rcases Bool.or_eq_true_iff.mp joint with same | same <;>
    · rw [of_decide_eq_true same] at letter
      exact absurd letter (by decide)

theorem camelSpelling_camelCase {name : Text} (dashed : isDashedName name = true) :
    CamelSpelling name (camelCase name) where
  first := by
    obtain ⟨letter, rest, rfl, isLetter⟩ := starts_with_letter dashed
    refine ⟨letter, camelFrom false rest, ?_, isLetter⟩
    rw [camelCase, camelFrom, not_isJoint_of_isAlpha isLetter]
    rfl
  parts c member := by
    have part := Document.isWordPart_of_mem_camelCase dashed member
    exact (Bool.or_eq_true_iff.mp part).imp id of_decide_eq_true
  letters := lower_camelFrom name false

/-- A name without joints is not dashed. -/
theorem not_isDashedName {name : Text} (parts : ∀ c ∈ name, isWordPart c = true) :
    isDashedName name = false := by
  have joints : ∀ c, isWordPart c = true → isJoint c = false := by
    intro c part
    rcases Bool.or_eq_true_iff.mp part with solid | underscore
    · exact Text.of_isAlphanum (P := fun c => isJoint c = false) (by decide +kernel) solid
    · rw [of_decide_eq_true underscore]
      decide
  cases dashed : isDashedName name with
  | false => rfl
  | true =>
    have words := two_words dashed
    rw [Text.splitWhere_of_free fun c member => joints c (parts c member), List.length_singleton]
      at words
    omega

/-! ### No dashed name is left -/

/-- Up to its first white space a text is kept. -/
theorem start_of_camelizeDashed {text stretch behind : Text}
    (solid : ∀ c ∈ stretch, Char.isBlank c = false)
    (same : camelizeDashed text = stretch ++ behind) : ∃ rest, text = stretch ++ rest := by
  induction stretch generalizing text with
  | nil => exact ⟨text, rfl⟩
  | cons c stretch ih =>
    rw [List.forall_mem_cons] at solid
    cases text with
    | nil =>
      rw [camelizeDashed, Recogniser.rewrite_nil] at same
      cases same
    | cons first text =>
      cases taken : recognise (first :: text) with
      | none =>
        rw [camelizeDashed_cons taken] at same
        obtain ⟨rfl, behindEq⟩ := List.cons.inj same
        obtain ⟨rest, rfl⟩ := ih solid.2 behindEq
        exact ⟨rest, rfl⟩
      | some hit =>
        obtain ⟨isBlank, -, -⟩ := written_of_recognise taken
        rw [camelizeDashed, Recogniser.rewrite_of_some taken] at same
        rw [(List.cons.inj same).1, solid.1] at isBlank
        cases isBlank

/-- A character that starts no dashed name starts none when the text behind it is changed. -/
theorem recognise_camelizeDashed {c : Char} {text : Text} (refused : recognise (c :: text) = none) :
    recognise (c :: camelizeDashed text) = none := by
  rw [Option.eq_none_iff_forall_ne_some]
  intro hit taken
  obtain ⟨blank, key, rest, isBlank, dashed, shape⟩ := key_of_recognise taken
  obtain ⟨rfl, behind⟩ := List.cons.inj shape
  have start : camelizeDashed text = (key ++ ['=']) ++ rest := by rw [behind]; simp
  obtain ⟨rest', rfl⟩ := start_of_camelizeDashed (solid_of_dashed dashed) start
  obtain ⟨other, taken', -⟩ := recognise_written isBlank dashed rest'
  rw [List.append_assoc, List.singleton_append] at refused
  cases refused.symm.trans taken'

/-- A name in camel case is not dashed. -/
theorem recognise_camelCase {key : Text} (dashed : isDashedName key = true) (blank : Char)
    (behind : Text) : recognise (blank :: (camelCase key ++ ['='] ++ behind)) = none := by
  rw [Option.eq_none_iff_forall_ne_some]
  intro hit taken
  obtain ⟨_, other, rest, -, dashed', shape⟩ := key_of_recognise taken
  have parts : ∀ c ∈ camelCase key, isWordPart c = true := fun c member =>
    Document.isWordPart_of_mem_camelCase dashed member
  have free : '=' ∉ camelCase key := fun member => absurd (parts _ member) (by decide)
  have free' : '=' ∉ other := Element.Attribute.isDashedName_parts dashed' (by decide)
  have named : camelCase key ++ '=' :: behind = other ++ '=' :: rest := by
    rw [← List.singleton_append, ← List.append_assoc]
    exact (List.cons.inj shape).2
  rw [← (Text.append_cons_inj free free' named).1, not_isDashedName parts] at dashed'
  cases dashed'

/-- **No dashed name is left**, and none arises where a name in camel case meets the text around
it. -/
theorem hits_camelizeDashed (text : Text) :
    Recogniser.hits recognise (camelizeDashed text) = [] := by
  induction text using Recogniser.scan_induction recognise with
  | nil => rw [camelizeDashed, Recogniser.rewrite_nil, Recogniser.hits_nil]
  | plain c text refused ih =>
    rw [camelizeDashed_cons refused, Recogniser.hits_of_none (recognise_camelizeDashed refused), ih]
  | hit text hit taken ih =>
    obtain ⟨-, dashed, -⟩ := written_of_recognise taken
    have solid : ∀ c ∈ camelCase hit.value.name ++ ['='], Char.isBlank c = false := by
      intro c member
      rcases List.mem_append.mp member with inName | last
      · have part := Document.isWordPart_of_mem_camelCase dashed inName
        exact not_isBlank_of_part (Bool.or_eq_true_iff.mpr (Or.inl part))
      · rw [List.mem_singleton.mp last]
        decide
    have shape : camelizeDashed text =
        hit.value.blank :: (camelCase hit.value.name ++ ['='] ++ camelizeDashed hit.rest) :=
      Recogniser.rewrite_of_some taken
    rw [shape, Recogniser.hits_of_none (recognise_camelCase dashed _ _),
      Recogniser.hits_append_of_refuses (refuses_of_solid solid _), ih]

theorem dashedNames_eq_nil_iff {markup : Text} :
    dashedNames markup = [] ↔ Recogniser.hits recognise markup = [] := by
  rw [List.eq_nil_iff_forall_not_mem, List.eq_nil_iff_forall_not_mem]
  simp only [dashedNames, Text.mem_sortedDistinct, List.mem_map, not_exists, not_and]
  exact ⟨fun none found member => none found.name found member rfl,
    fun none name found member _ => none found member⟩

end DashedName

open DashedName

/-- **Exactly the dashed names between white space and `=` are written in camel case.** A text is cut
at every such name; each of them is written in camel case, all characters between them are kept in
their order, and no dashed name is left at such a place, so that a second pass changes nothing. -/
theorem camelizeDashed_names (markup : Text) :
    (∃ segments, IsCut markup segments ∧
      camelizeDashed markup = segments.flatMap (Segment.text (·.camelized.written)) ∧
      ∀ name, name ∈ dashedNames markup ↔ ∃ blank, Segment.hit ⟨blank, name⟩ ∈ segments) ∧
    (∀ name ∈ dashedNames markup, CamelSpelling name (camelCase name)) ∧
    dashedNames (camelizeDashed markup) = [] ∧
    camelizeDashed (camelizeDashed markup) = camelizeDashed markup := by
  have cut := isCut_scan markup
  refine ⟨⟨_, cut, rfl, fun name => mem_dashedNames⟩, fun name member => ?_,
    dashedNames_eq_nil_iff.mpr (hits_camelizeDashed markup),
    Recogniser.rewrite_eq_self (hits_camelizeDashed markup)⟩
  obtain ⟨blank, inScan⟩ := mem_dashedNames.mp member
  exact camelSpelling_camelCase (cut.dashed _ inScan).2

end IconComponents
