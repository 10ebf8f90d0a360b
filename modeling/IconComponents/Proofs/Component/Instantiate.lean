/-
**Defaults in the place of references give the icon back.**

A component's markup refers to colours, and its properties say which colours they are unless the
user of the component sets others. `instantiate` puts the defaults in: every reference becomes the
attribute with the value that the property's default has there. On the markup made from an icon this
gives the icon's own markup.

The searches for the colours run one after the other, and each is undone by `instantiate` on its
own, whatever text it works on:

* `ColourReference.value?` — the value that a reference stands for, read from the JSON literals;
* `eq_append_of_replaceAll` — no search completes a reference that was not there;
* `instantiate_replaceAll` — hence a search does not change what a text instantiates to;
* `instantiate_install` — the statement for all searches.
-/

import IconComponents.Component.Properties
import IconComponents.Proofs.Component.Json
import IconComponents.Proofs.Markup.ColourReference
import IconComponents.Proofs.Markup.Install

namespace IconComponents

/-- The literal of the default of one colour. -/
def Properties.defaultOf (properties : Properties) : PaintAttribute → Option Text
  | .fill => properties.fillDefault
  | .stroke => properties.strokeDefault

namespace ColourReference

/-- The value that a reference stands for: the whole default if that is one text, a member if it is
a list. -/
def value? (properties : Properties) (reference : ColourReference) : Option Text :=
  match (properties.defaultOf reference.paint).bind Default.read?, reference.index? with
  | some (.one value), none => some value
  | some (.several values), some index => values[index]?
  | _, _ => none

/-- The attribute that a reference stands for. -/
def attribute? (properties : Properties) (reference : ColourReference) : Option Text :=
  (reference.value? properties).map reference.paint.written

/-- What a part of a markup stands for; a character stands for itself. -/
def part? (properties : Properties) : Segment ColourReference → Option Text
  | .plain c => some [c]
  | .hit reference => reference.attribute? properties

end ColourReference

/-- The markup with every reference replaced by what it stands for; nothing if one of them stands
for nothing. -/
def instantiate (properties : Properties) (markup : Text) : Option Text :=
  ((ColourReference.recognise.scan markup).mapM (ColourReference.part? properties)).map List.flatten

variable {properties : Properties}

/-! ### One step -/

theorem instantiate_nil : instantiate properties [] = some [] := by
  rw [instantiate, Recogniser.scan_nil]
  rfl

theorem instantiate_of_none {c : Char} {text : Text}
    (refused : ColourReference.recognise (c :: text) = none) :
    instantiate properties (c :: text) = (instantiate properties text).map (c :: ·) := by
  rw [instantiate, instantiate, Recogniser.scan_of_none refused, List.mapM_cons]
  cases (ColourReference.recognise.scan text).mapM (ColourReference.part? properties) <;> rfl

/-- A reference is replaced by the attribute that it stands for, if there is one. -/
theorem instantiate_reference {reference : ColourReference} {body : Text}
    (isBody : reference.IsBody body) (rest : Text) :
    instantiate properties (reference.paint.reference body ++ rest) =
      (reference.attribute? properties).bind fun written =>
        (instantiate properties rest).map (written ++ ·) := by
  obtain ⟨hit, taken, valueEq, restEq⟩ := ColourReference.recognise_append isBody rest
  rw [instantiate, instantiate, Recogniser.scan_of_some taken, List.mapM_cons, valueEq, restEq,
    ColourReference.part?]
  cases reference.attribute? properties with
  | none => rfl
  | some written =>
    cases (ColourReference.recognise.scan rest).mapM (ColourReference.part? properties) <;> rfl

/-- A placeholder is replaced by the value that it stands for. -/
theorem instantiate_placeholder {paint : PaintAttribute} {index? : Option Nat} {value : Text}
    (stands : ColourReference.value? properties ⟨paint, index?⟩ = some value) (rest : Text) :
    instantiate properties (paint.placeholder index? ++ rest) =
      (instantiate properties rest).map (paint.written value ++ ·) := by
  rw [PaintAttribute.placeholder_eq,
    instantiate_reference (ColourReference.isBody_placeholder paint index?),
    ColourReference.attribute?, stands]
  rfl

/-- A stretch without references is kept. -/
theorem instantiate_append_of_refuses {stretch behind : Text}
    (refuses : Recogniser.Refuses ColourReference.recognise stretch behind) :
    instantiate properties (stretch ++ behind) =
      (instantiate properties behind).map (stretch ++ ·) := by
  induction stretch with
  | nil => simp
  | cons c stretch ih =>
    rw [List.cons_append, instantiate_of_none refuses.head, ih refuses.tail, Option.map_map]
    rfl

/-! ### Texts without references -/

/-- No reference opens in a text. -/
def OpensNoReference (text : Text) : Prop :=
  ∀ paint : PaintAttribute, ¬ paint.name ++ ['=', '\x7b'] <:+: text

/-- A reference opens with the name of an attribute and a brace. -/
theorem opening_infix {text : Text} {hit : Hit ColourReference text}
    (found : ColourReference.recognise text = some hit) :
    ∃ (paint : PaintAttribute) (rest : Text), text = paint.name ++ ['=', '\x7b'] ++ rest := by
  obtain ⟨body, -, split⟩ := ColourReference.of_recognise found
  refine ⟨hit.value.paint, body ++ '\x7d' :: hit.rest, split.trans ?_⟩
  simp [PaintAttribute.reference]

/-- A text without such openings is kept. -/
theorem instantiate_of_opensNoReference {text : Text} (closed : OpensNoReference text) :
    instantiate properties text = some text := by
  induction text with
  | nil => exact instantiate_nil
  | cons c text ih =>
    have refused : ColourReference.recognise (c :: text) = none := by
      rw [Option.eq_none_iff_forall_ne_some]
      intro hit found
      obtain ⟨paint, rest, split⟩ := opening_infix found
      exact closed paint ⟨[], rest, by rw [split]; rfl⟩
    rw [instantiate_of_none refused, ih fun paint within =>
      closed paint (within.trans (List.suffix_cons c text).isInfix)]
    rfl

/-- A written attribute whose text opens no reference is passed over, whatever is behind it. -/
theorem refuses_closed {paint : PaintAttribute} {value : Text}
    (closed : OpensNoReference (paint.written value)) (behind : Text) :
    Recogniser.Refuses ColourReference.recognise (paint.written value) behind := by
  intro ahead tail split nonempty
  rw [Option.eq_none_iff_forall_ne_some]
  intro hit found
  obtain ⟨other, rest, start⟩ := opening_infix found
  obtain ⟨inner, -, rfl⟩ := Text.concat_of_append_eq nonempty split
  rcases List.append_eq_append_iff.mp start with ⟨gap, openingEq, -⟩ | ⟨gap, tailEq, -⟩
  · have quote : '"' ∈ other.name ++ ['=', '\x7b'] := by
      rw [openingEq]
      simp
    exact absurd quote (by cases other <;> decide)
  · exact closed other ⟨ahead, gap, by rw [split, tailEq, List.append_assoc]⟩

/-! ### One search -/

/-- A rule for a colour whose placeholder stands for its value. -/
def IsResolved (properties : Properties) (rule : Text × Text) : Prop :=
  ∃ (paint : PaintAttribute) (value : Text) (index? : Option Nat),
    OpensNoReference (paint.written value) ∧
      ColourReference.value? properties ⟨paint, index?⟩ = some value ∧
        rule = (paint.written value, paint.placeholder index?)

/-- **A text in which no name is followed by an equals sign was there before the search.** -/
theorem eq_append_of_replaceAll {needle needed rest text : Text} {paint : PaintAttribute}
    {index? : Option Nat} (nonempty : needle ≠ [])
    (foreign : ∀ ahead tail, needed = ahead ++ tail → tail ≠ [] → ∀ behind,
      tail ++ rest ≠ paint.name ++ '=' :: behind)
    (same : Text.replaceAll needle (paint.placeholder index?) text = needed ++ rest) :
    ∃ original, text = needed ++ original := by
  induction needed generalizing text with
  | nil => exact ⟨text, rfl⟩
  | cons n needed ih =>
    cases text with
    | nil =>
      rw [Text.replaceAll] at same
      cases same
    | cons c text =>
      cases taken : Recogniser.literal needle (c :: text) with
      | some hit =>
        rw [Recogniser.eq_append_of_literal taken, Text.replaceAll_needle_append nonempty,
          PaintAttribute.placeholder_eq, PaintAttribute.reference, List.append_assoc] at same
        exact absurd same.symm (foreign [] _ rfl (List.cons_ne_nil _ _) _)
      | none =>
        rw [Text.replaceAll_of_none nonempty taken] at same
        obtain ⟨rfl, tailSame⟩ := List.cons.inj same
        obtain ⟨original, rfl⟩ :=
          ih (fun ahead tail split => foreign (c :: ahead) tail (by rw [split]; rfl)) tailSame
        exact ⟨original, rfl⟩

/-- Replacing later texts by placeholders brings no reference to a place that has none. -/
theorem recognise_replaceAll {needle text : Text} {paint : PaintAttribute} {index? : Option Nat}
    {c : Char} (nonempty : needle ≠ []) (refused : ColourReference.recognise (c :: text) = none) :
    ColourReference.recognise
      (c :: Text.replaceAll needle (paint.placeholder index?) text) = none := by
  rw [Option.eq_none_iff_forall_ne_some]
  intro hit found
  obtain ⟨body, isBody, split⟩ := ColourReference.of_recognise found
  obtain ⟨first, needed, shape⟩ : ∃ first needed, hit.value.paint.reference body =
      first :: needed := by
    cases hit.value.paint <;> exact ⟨_, _, rfl⟩
  have tailSplit : c :: Text.replaceAll needle (paint.placeholder index?) text =
      first :: (needed ++ hit.rest) := by
    rw [← List.cons_append, ← shape]
    exact split
  obtain ⟨rfl, same⟩ := List.cons.inj tailSplit
  have foreign : ∀ ahead tail, needed = ahead ++ tail → tail ≠ [] → ∀ behind,
      tail ++ hit.rest ≠ paint.name ++ '=' :: behind := by
    intro ahead tail cut tailNonempty behind start
    have whole : hit.value.paint.reference body = (c :: ahead) ++ tail := by
      rw [shape, cut]
      rfl
    obtain ⟨empty, -⟩ :=
      PaintAttribute.name_in_reference isBody.equals_not_mem whole tailNonempty start
    cases empty
  obtain ⟨original, rfl⟩ := eq_append_of_replaceAll nonempty foreign same
  have before := ColourReference.recognise_append isBody original
  rw [shape, List.cons_append] at before
  obtain ⟨hit, taken, -⟩ := before
  rw [refused] at taken
  cases taken

/-- **A search does not change what a text instantiates to**: a colour is replaced by a reference that
instantiates to it, and the search passes over references that are there. -/
theorem instantiate_replaceAll {rule : Text × Text} (resolved : IsResolved properties rule)
    (text : Text) :
    instantiate properties (Text.replaceAll rule.1 rule.2 text) = instantiate properties text := by
  obtain ⟨paint, value, index?, closed, stands, rfl⟩ := resolved
  have nonempty : paint.written value ≠ [] := by simp [PaintAttribute.written]
  simp only
  induction size : text.length using Nat.strongRecOn generalizing text with
  | _ n ih =>
    subst size
    cases text with
    | nil => rw [Text.replaceAll]
    | cons c text =>
      cases taken : Recogniser.literal (paint.written value) (c :: text) with
      | some hit =>
        have split := Recogniser.eq_append_of_literal taken
        have later := ih _ hit.shorter hit.rest rfl
        rw [split, Text.replaceAll_needle_append nonempty, instantiate_placeholder stands,
          instantiate_append_of_refuses (refuses_closed closed _), later]
      | none =>
        cases found : ColourReference.recognise (c :: text) with
        | some hit =>
          obtain ⟨body, isBody, split⟩ := ColourReference.of_recognise found
          have later := ih _ hit.shorter hit.rest rfl
          have passed : (Recogniser.literal (paint.written value)).Refuses
              (hit.value.paint.reference body) hit.rest :=
            PaintAttribute.literal_refuses (fun ahead tail cut nonempty =>
              PaintAttribute.recognise_eq_none fun rest =>
                PaintAttribute.opening_in_reference isBody.equals_not_mem cut nonempty) value
          rw [split, Text.replaceAll_append_of_refuses nonempty passed,
            instantiate_reference isBody, instantiate_reference isBody, later]
        | none =>
          have later := ih _ (Nat.lt_succ_self _) text rfl
          rw [Text.replaceAll_of_none nonempty taken, instantiate_of_none found,
            instantiate_of_none (recognise_replaceAll nonempty found), later]

/-- Replacements that references turn back leave no trace. -/
theorem instantiate_replaceInTurn {rules : List (Text × Text)}
    (resolved : ∀ rule ∈ rules, IsResolved properties rule) (text : Text) :
    instantiate properties (replaceInTurn rules text) = instantiate properties text := by
  induction rules generalizing text with
  | nil => rfl
  | cons rule rules ih =>
    calc instantiate properties (replaceInTurn (rule :: rules) text)
        = instantiate properties (replaceInTurn rules (Text.replaceAll rule.1 rule.2 text)) := rfl
      _ = instantiate properties (Text.replaceAll rule.1 rule.2 text) :=
          ih (fun other member => resolved other (List.mem_cons_of_mem _ member)) _
      _ = instantiate properties text :=
          instantiate_replaceAll (resolved rule List.mem_cons_self) text

/-! ### The colours of a markup and their defaults -/

namespace Occurrences

variable {markup : Text} {paint : PaintAttribute}

/-- An attribute as it is written is found with its value. -/
theorem find?_written {value : Text} (plain : '"' ∉ value) :
    (paint.recognise.find? (paint.written value)).map (fun (_, found, _) => found) =
      some value := by
  have taken := PaintAttribute.recognise_written paint plain []
  rw [List.append_nil] at taken
  obtain ⟨first, rest, shape⟩ := List.exists_cons_of_ne_nil
    (show paint.written value ≠ [] by simp [PaintAttribute.written])
  rw [shape] at taken ⊢
  obtain ⟨hit, read, valueEq, -⟩ := taken
  rw [Recogniser.find?, read]
  exact congrArg some valueEq

/-- The values of written attributes are written as these. -/
theorem map_written_filterMap {texts : List Text}
    (written : ∀ text ∈ texts, ∃ value, '"' ∉ value ∧ text = paint.written value) :
    (texts.filterMap fun text => (paint.recognise.find? text).map fun (_, found, _) => found).map
      paint.written = texts := by
  induction texts with
  | nil => rfl
  | cons text texts ih =>
    obtain ⟨value, plain, rfl⟩ := written text List.mem_cons_self
    rw [List.filterMap_cons, find?_written plain]
    simp only [List.map_cons]
    rw [ih fun other member => written other (List.mem_cons_of_mem _ member)]

/-- The colours of a markup are written with the values that are read back from them. -/
theorem texts_extract (markup : Text) (paint : PaintAttribute) :
    (extract markup paint).texts = (extract markup paint).values.map paint.written := by
  refine (map_written_filterMap fun text member => ?_).symm
  obtain ⟨value, found, -, same⟩ := mem_extract.mp member
  exact ⟨value, PaintAttribute.plain_of_mem_hits found, same⟩

/-- **The default of a property gives each of its references the value it stands for.** -/
theorem value?_of_getElem? {markup value : Text} {index : Nat}
    (found : (extract markup paint).values[index]? = some value) :
    ColourReference.value?
      (Properties.ofOccurrences (extract markup .fill) (extract markup .stroke))
      ⟨paint, if (extract markup paint).isMultiple then some index else none⟩ = some value := by
  have literal : (Properties.ofOccurrences (extract markup .fill)
      (extract markup .stroke)).defaultOf paint = (extract markup paint).default? := by
    cases paint <;> rfl
  have size : (extract markup paint).isMultiple =
      decide (1 < (extract markup paint).values.length) := by
    rw [isMultiple, Occurrences.size, texts_extract, List.length_map]
  rw [ColourReference.value?]
  simp only
  rw [literal, size, default?]
  generalize (extract markup paint).values = values at found
  rcases values with _ | ⟨first, _ | ⟨second, values⟩⟩
  · cases found
  · cases index with
    | zero =>
      cases found
      simp [read?_quote]
    | succ index => cases found
  · simp [read?_quoteAll, found]

/-- The replacements of extracted attributes are turned back by references. -/
theorem isResolved_of_mem (closed : OpensNoReference markup) {rule : Text × Text}
    (member : rule ∈ (extract markup paint).replacements) :
    IsResolved (Properties.ofOccurrences (extract markup .fill) (extract markup .stroke)) rule := by
  obtain ⟨text, replacement⟩ := rule
  rw [replacements, List.mem_map] at member
  obtain ⟨⟨text, index⟩, place, same⟩ := member
  cases same
  have found := List.mem_zipIdx_iff_getElem?.mp place
  simp only at found
  have within : text <:+: markup := infix_of_mem_extract (List.mem_of_getElem? found)
  rw [texts_extract, List.getElem?_map] at found
  obtain ⟨value, valueFound, rfl⟩ := Option.map_eq_some_iff.mp found
  exact ⟨paint, value, _, fun other inside => closed other (inside.trans within),
    value?_of_getElem? valueFound, rfl⟩

end Occurrences

/-- **With the defaults in the place of its references a component's markup is the icon's.** -/
theorem instantiate_install (markup : Text)
    (noFill : Text.contains markup "fill=\x7b".toList = false)
    (noStroke : Text.contains markup "stroke=\x7b".toList = false) :
    let fill := Occurrences.extract markup .fill
    let stroke := Occurrences.extract markup .stroke
    instantiate (Properties.ofOccurrences fill stroke) (stroke.install (fill.install markup)) =
      some markup := by
  intro fill stroke
  have closed : OpensNoReference markup := by
    intro paint
    cases paint with
    | fill => exact Text.not_infix_of_contains noFill
    | stroke => exact Text.not_infix_of_contains noStroke
  rw [install_install, instantiate_replaceInTurn, instantiate_of_opensNoReference closed]
  intro rule member
  rcases List.mem_append.mp member with ofFill | ofStroke
  · exact Occurrences.isResolved_of_mem closed ofFill
  · exact Occurrences.isResolved_of_mem closed ofStroke

/-- Two fills, one with a backslash and a line break in its value, and one stroke. -/
theorem instantiate_two_fills :
    let markup := "<g stroke=\"#000\"><path fill=\"red\"/><path fill=\"a\\b\n\"/></g>".toList
    let fill := Occurrences.extract markup .fill
    let stroke := Occurrences.extract markup .stroke
    Text.contains markup "fill=\x7b".toList = false ∧
      Text.contains markup "stroke=\x7b".toList = false ∧
      fill.default? = some "[\"a\\\\b\\n\",\"red\"]".toList ∧
      instantiate (Properties.ofOccurrences fill stroke) (stroke.install (fill.install markup)) =
        some markup :=
  ⟨by decide +kernel, by decide +kernel, by decide +kernel,
    instantiate_install _ (by decide +kernel) (by decide +kernel)⟩

end IconComponents
