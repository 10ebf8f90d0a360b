/-
**Type, default and references of a colour agree.**

Whether a colour's property is a text or a list of texts is decided three times: where the type
literal is put together, where the default is written, and where references are put into the markup.
Each is read here for what it says, and the three say the same:

* `declaredType?` — the type that the literal declares for a property;
* `Default.read?` — what the default denotes;
* `Occurrences.InsertsOnly` — what references come into a markup, whatever the markup is;
* `Payload.colours_agree` — the three agree, for each colour of every icon.
-/

import Mathlib.Data.List.Nodup
import Mathlib.Logic.Relation
import IconComponents.Component.Payload
import IconComponents.Proofs.Component.Instantiate

namespace IconComponents

/-! ### What is declared -/

/-- The type that a type literal declares for the property of a colour, if it has a field for it. -/
def declaredType? (literal : Text) (paint : PaintAttribute) : Option Text :=
  match (Text.after? "\x7b ".toList literal).bind (Text.cut? " \x7d".toList) with
  | some (fields, []) =>
    (Text.splitOn ';' fields).findSome? fun field =>
      Text.after? (paint.name ++ "?: ".toList) (Text.skipSpace field)
  | _ => none

/-- The default of one colour. -/
def Payload.defaultOf (payload : Payload) : PaintAttribute → Option Text
  | .fill => payload.fill
  | .stroke => payload.stroke

/-! ### What is put in -/

namespace PaintAttribute

/-- A reference to the property as a whole. -/
def IsBare (paint : PaintAttribute) (inserted : Text) : Prop := inserted = paint.placeholder none

/-- A reference to one of the first `size` members of the property. -/
def IsIndexedBelow (paint : PaintAttribute) (size : Nat) (inserted : Text) : Prop :=
  ∃ index < size, inserted = paint.placeholder (some index)

end PaintAttribute

namespace Occurrences

variable {set : Occurrences} {form : Text → Prop} {markup : Text} {paint : PaintAttribute}

/-- One colour of the set makes way for a text of a given form. -/
inductive Insertion (set : Occurrences) (form : Text → Prop) : Text → Text → Prop
  | intro (before after : Text) {needle inserted : Text} (member : needle ∈ set.texts)
      (shaped : form inserted) :
      Insertion set form (before ++ needle ++ after) (before ++ inserted ++ after)

/-- In every markup only colours of the set make way, and only texts of a given form come in. -/
def InsertsOnly (set : Occurrences) (form : Text → Prop) : Prop :=
  ∀ markup, Relation.ReflTransGen (Insertion set form) markup (set.install markup)

/-- An insertion behind some text. -/
theorem Insertion.behind {text changed : Text} (front : Text)
    (insertion : Insertion set form text changed) :
    Insertion set form (front ++ text) (front ++ changed) := by
  obtain ⟨before, after, member, shaped⟩ := insertion
  simpa using Insertion.intro (front ++ before) after member shaped

theorem insertions_behind {text changed : Text} (front : Text)
    (insertions : Relation.ReflTransGen (Insertion set form) text changed) :
    Relation.ReflTransGen (Insertion set form) (front ++ text) (front ++ changed) :=
  insertions.lift (front ++ ·) fun _ _ => Insertion.behind front

/-- Replacing all occurrences of a listed text is a run of insertions. -/
theorem insertions_replaceAll {needle inserted : Text} (member : needle ∈ set.texts)
    (nonempty : needle ≠ []) (shaped : form inserted) (text : Text) :
    Relation.ReflTransGen (Insertion set form) text (Text.replaceAll needle inserted text) := by
  induction text using Recogniser.scan_induction (Recogniser.literal needle) with
  | nil => rw [Text.replaceAll]
  | plain c text refused ih =>
    rw [Text.replaceAll_of_none nonempty refused]
    exact insertions_behind [c] ih
  | hit text hit found ih =>
    have split := Recogniser.eq_append_of_literal found
    have first : Insertion set form text (inserted ++ hit.rest) := by
      have step : Insertion set form ([] ++ needle ++ hit.rest) ([] ++ inserted ++ hit.rest) :=
        .intro [] hit.rest member shaped
      rwa [List.nil_append, List.nil_append, ← split] at step
    have later := insertions_behind inserted ih
    rw [split, Text.replaceAll_needle_append nonempty, ← split]
    exact .head first later

/-- Replacing several listed texts in turn is a run of insertions. -/
theorem insertions_replaceInTurn {rules : List (Text × Text)}
    (sound : ∀ rule ∈ rules, rule.1 ∈ set.texts ∧ rule.1 ≠ [] ∧ form rule.2) (markup : Text) :
    Relation.ReflTransGen (Insertion set form) markup (replaceInTurn rules markup) := by
  induction rules generalizing markup with
  | nil => exact .refl
  | cons rule rules ih =>
    obtain ⟨member, nonempty, shaped⟩ := sound rule List.mem_cons_self
    have first := insertions_replaceAll member nonempty shaped markup
    exact first.trans (ih (fun other member => sound other (List.mem_cons_of_mem _ member)) _)

/-- **What the rewriter puts in** are the references to the colours by their indices. -/
theorem insertsOnly_extract
    (shaped : ∀ index < (extract markup paint).size,
      form ((extract markup paint).placeholder index)) :
    (extract markup paint).InsertsOnly form := by
  intro text
  rw [install_eq_replaceInTurn]
  refine insertions_replaceInTurn (fun ⟨needle, inserted⟩ isRule => ?_) text
  obtain ⟨member, rfl⟩ := (mem_replacements nodup_extract).mp isRule
  obtain ⟨value, -, -, rfl⟩ := mem_extract.mp member
  exact ⟨member, by simp [PaintAttribute.written], shaped _ (List.idxOf_lt_length_of_mem member)⟩

/-! ### The three views of one colour -/

/-- The type of the property; nothing without a colour. -/
def type? (set : Occurrences) : Option Text := if set.isEmpty then none else some set.typeName

/-- **The type literal is read as it was put together.** -/
theorem declaredType?_ofOccurrences (fill stroke : Occurrences) (isFill : fill.paint = .fill)
    (isStroke : stroke.paint = .stroke) :
    declaredType? (Properties.ofOccurrences fill stroke).typeLiteral .fill = fill.type? ∧
      declaredType? (Properties.ofOccurrences fill stroke).typeLiteral .stroke = stroke.type? := by
  simp only [Properties.ofOccurrences, List.filterMap_cons, List.filterMap_nil, field?, type?,
    typeName, isFill, isStroke]
  generalize fill.isEmpty = noFill, fill.isMultiple = fills, stroke.isEmpty = noStroke,
    stroke.isMultiple = strokes
  revert noFill fills noStroke strokes
  decide

/-- Both colours are declared, each with its own type. -/
example : declaredType? "\x7b fill?: string[]; stroke?: string \x7d".toList .stroke =
    some "string".toList := by
  decide

/-- A default and a declared type that agree with each other, with the set of colours, and with
what comes into the markup for it. -/
structure Agree (set : Occurrences) (default declared : Option Text) : Prop where
  absent : default = none ↔ set.texts = []
  undeclared : default = none ↔ declared = none
  one : (∃ value, default.bind Default.read? = some (.one value)) ↔
    declared = some "string".toList ∧ set.InsertsOnly set.paint.IsBare
  several : ∀ size, (∃ values, default.bind Default.read? = some (.several values) ∧
      values.length = size) ↔
    declared = some "string[]".toList ∧ set.size = size ∧
      set.InsertsOnly (set.paint.IsIndexedBelow size)
  distinct : ∀ values, default.bind Default.read? = some (.several values) →
    2 ≤ values.length ∧ values.Nodup

theorem size_extract : (extract markup paint).size = (extract markup paint).values.length := by
  rw [size, texts_extract, List.length_map]

theorem nodup_values_extract : (extract markup paint).values.Nodup := by
  have nodup : (extract markup paint).texts.Nodup := nodup_extract
  rw [texts_extract] at nodup
  exact List.Nodup.of_map _ nodup

/-- Without values there is neither a default nor a type. -/
theorem agree_of_none (values : (extract markup paint).values = []) :
    (extract markup paint).Agree (extract markup paint).default? (extract markup paint).type? := by
  have texts : (extract markup paint).texts = [] := by rw [texts_extract, values, List.map_nil]
  have default : (extract markup paint).default? = none := by rw [default?, values]
  have declared : (extract markup paint).type? = none := by rw [type?, isEmpty, texts]; rfl
  rw [default, declared]
  exact ⟨by simp [texts], by simp, by simp, by simp, by simp⟩

/-- A single value is a default of its own, and the type is that of a text. -/
theorem agree_of_one {value : Text} (values : (extract markup paint).values = [value]) :
    (extract markup paint).Agree (extract markup paint).default? (extract markup paint).type? := by
  have texts : (extract markup paint).texts = [paint.written value] := by
    rw [texts_extract, values, List.map_singleton]
  have single : (extract markup paint).isMultiple = false := by rw [isMultiple, size, texts]; rfl
  have default : (extract markup paint).default? = some (Text.quote value) := by
    rw [default?, values]
  have declared : (extract markup paint).type? = some "string".toList := by
    rw [type?, isEmpty, texts, typeName, single]
    rfl
  have bare : (extract markup paint).InsertsOnly paint.IsBare :=
    insertsOnly_extract fun index _ => by
    rw [placeholder, single]
    rfl
  rw [default, declared]
  refine ⟨by simp [texts], by simp, ?_, ?_, ?_⟩
  · exact iff_of_true ⟨value, read?_quote value⟩ ⟨rfl, bare⟩
  · simp [read?_quote]
  · simp [read?_quote]

/-- Several values are a list, and so is the type. -/
theorem agree_of_several {first second : Text} {others : List Text}
    (values : (extract markup paint).values = first :: second :: others) :
    (extract markup paint).Agree (extract markup paint).default? (extract markup paint).type? := by
  have texts : (extract markup paint).texts =
      (first :: second :: others).map paint.written := by rw [texts_extract, values]
  have multiple : (extract markup paint).isMultiple = true := by simp [isMultiple, size, texts]
  have default : (extract markup paint).default? =
      some (Text.quoteAll (first :: second :: others)) := by rw [default?, values]
  have declared : (extract markup paint).type? = some "string[]".toList := by
    rw [type?, isEmpty, texts, typeName, multiple]
    rfl
  have indexed : (extract markup paint).InsertsOnly
      (paint.IsIndexedBelow (extract markup paint).size) :=
    insertsOnly_extract fun index bound => ⟨index, bound, by rw [placeholder, multiple]; rfl⟩
  have sizeEq : (extract markup paint).size = (first :: second :: others).length := by
    rw [size_extract, values]
  rw [default, declared]
  refine ⟨by simp [texts], by simp, by simp [read?_quoteAll], fun n => ⟨?_, ?_⟩, ?_⟩
  · rintro ⟨read, same, rfl⟩
    rw [Option.bind_some, read?_quoteAll] at same
    cases same
    exact ⟨rfl, sizeEq, sizeEq ▸ indexed⟩
  · rintro ⟨-, rfl, -⟩
    exact ⟨_, read?_quoteAll _, sizeEq.symm⟩
  · intro read same
    rw [Option.bind_some, read?_quoteAll] at same
    cases same
    exact ⟨by simp, values ▸ nodup_values_extract⟩

/-- **Type, default and references of one colour agree.** -/
theorem agree_extract (markup : Text) (paint : PaintAttribute) :
    (extract markup paint).Agree (extract markup paint).default? (extract markup paint).type? := by
  match values : (extract markup paint).values with
  | [] => exact agree_of_none values
  | [_] => exact agree_of_one values
  | _ :: _ :: _ => exact agree_of_several values

/-- There is no declared type exactly if both attributes have no texts. -/
theorem typeLiteral_eq_nil_iff {fill stroke : Occurrences} :
    (Properties.ofOccurrences fill stroke).typeLiteral = [] ↔
      fill.texts = [] ∧ stroke.texts = [] := by
  have undeclared : ∀ set : Occurrences, set.field? = none ↔ set.texts = [] := by
    intro set
    simp [field?, isEmpty]
  have empty : ∀ fields, Properties.literal fields = [] ↔ fields = [] := by
    intro fields
    cases fields <;> simp [Properties.literal]
  simp [Properties.ofOccurrences, empty, undeclared]

end Occurrences

/-- **Type, default and references agree** for the fill and for the stroke of every icon, and the
component declares no colour property exactly if the icon has no colour. -/
theorem Payload.colours_agree (icon : Icon) (componentName : Text) :
    (∀ paint, (Occurrences.extract icon.markup paint).Agree
      ((Payload.ofIcon icon componentName).defaultOf paint)
      (declaredType? (Payload.ofIcon icon componentName).propertyType paint)) ∧
    ((Payload.ofIcon icon componentName).propertyType = [] ↔
      ∀ paint, (Occurrences.extract icon.markup paint).texts = []) := by
  obtain ⟨fillType, strokeType⟩ := Occurrences.declaredType?_ofOccurrences
    (Occurrences.extract icon.markup .fill) (Occurrences.extract icon.markup .stroke) rfl rfl
  constructor
  · intro paint
    have agree := Occurrences.agree_extract icon.markup paint
    cases paint with
    | fill => rwa [← fillType] at agree
    | stroke => rwa [← strokeType] at agree
  · refine Occurrences.typeLiteral_eq_nil_iff.trans ⟨?_, fun none => ⟨none .fill, none .stroke⟩⟩
    rintro ⟨noFill, noStroke⟩ (_ | _)
    exacts [noFill, noStroke]

end IconComponents
