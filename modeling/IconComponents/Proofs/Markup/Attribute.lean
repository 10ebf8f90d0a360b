/-
**One attribute under each pass.**

An attribute as a tree holds it: a name of name characters, and a value without quotes, equals signs
and brackets. Each pass over markup looks for a key, which is a text that stands before an equals
sign. A key that starts in an attribute ends where the attribute's name ends (`key_in_written`), so
every pass either takes the attribute at its name or leaves it alone:

* `rewrite_size` — the size pass drops `width` and `height`;
* `rewrite_paint`, `hits_paint` — the colour passes replace and find a fill and a stroke;
* `rewrite_dashed` — the last pass renames a dashed name and leaves a placeholder as it is.
-/

import IconComponents.Proofs.Markup.Element
import IconComponents.Proofs.Markup.Install
import IconComponents.Proofs.Markup.Key

namespace IconComponents.Element

/-! ### Characters of names -/

theorem not_isBlank {c : Char} (named : isNameChar c = true) : Char.isBlank c = false := by
  have bound : 45 ≤ c.toNat ∧ c.toNat ≤ 122 := by
    simp only [isNameChar, Bool.or_eq_true, decide_eq_true_eq] at named
    rcases named with (((letter | rfl) | rfl) | rfl) | rfl
    · have codes := Text.codes_of_isAlphanum letter
      omega
    all_goals decide
  have notSpace : c ≠ ' ' := by
    rintro rfl
    exact absurd bound (by decide)
  unfold Char.isBlank
  simp [notSpace]
  omega

theorem Name.not_mem (name : Name) {c : Char} (foreign : isNameChar c = false) :
    c ∉ name.text := by
  intro member
  rw [name.plain c member] at foreign
  cases foreign

/-! ### Attributes -/

/-- An attribute. Its value holds no quote, equals sign or bracket, and only a fill or a stroke has
a name that ends so. -/
structure Attribute where
  name : Name
  value : Text
  plain : ∀ c ∈ value, c ≠ '"' ∧ c ≠ '=' ∧ c ≠ '<' ∧ c ≠ '>'
  proper : ∀ paint : PaintAttribute, paint.name <:+ name.text → name.text = paint.name

/-- An attribute behind the passes: a value, or the reference to a property. -/
inductive Rewritten where
  | literal (name value : Text)
  | reference (paint : PaintAttribute) (index? : Option Nat)

/-- An attribute with its value in quotes. -/
def quoted (name value : Text) : Text := name ++ '=' :: '"' :: (value ++ ['"'])

def Rewritten.written : Rewritten → Text
  | literal name value => quoted name value
  | reference paint index? => paint.placeholder index?

/-- A dashed name in camel case, any other name as it is. -/
def componentName (name : Text) : Text := if isDashedName name then camelCase name else name

namespace Attribute

def written (entry : Attribute) : Text := quoted entry.name.text entry.value

/-- Whether the attribute is a width or a height. -/
def isSize (entry : Attribute) : Bool :=
  entry.name.text = "width".toList || entry.name.text = "height".toList

/-- Which colour the attribute is. -/
def paint? (entry : Attribute) : Option PaintAttribute :=
  if entry.name.text = PaintAttribute.fill.name then some .fill
  else if entry.name.text = PaintAttribute.stroke.name then some .stroke
  else none

/-- The attribute with a reference in the place of a colour that paints. The reference has an index
if the icon has several such colours: the rank of this one among them. -/
def painted (fill stroke : Occurrences) (entry : Attribute) : Rewritten :=
  match entry.paint? with
  | none => .literal entry.name.text entry.value
  | some paint =>
    let set := match paint with
      | .fill => fill
      | .stroke => stroke
    if isUnpainted entry.value then .literal entry.name.text entry.value
    else .reference paint (if set.isMultiple then some (set.texts.idxOf entry.written) else none)

variable {entry : Attribute}

theorem quote_not_mem (entry : Attribute) : '"' ∉ entry.value :=
  fun member => (entry.plain _ member).1 rfl

theorem equals_not_mem (entry : Attribute) : '=' ∉ entry.value :=
  fun member => (entry.plain _ member).2.1 rfl

theorem name_of_paint? {paint : PaintAttribute} (found : entry.paint? = some paint) :
    entry.name.text = paint.name := by
  unfold paint? at found
  split at found
  · next same => cases found; exact same
  · split at found
    · next same => cases found; exact same
    · cases found

theorem not_suffix_of_paint? (none : entry.paint? = none) (paint : PaintAttribute) :
    ¬ paint.name <:+ entry.name.text := by
  intro suffix
  have same := entry.proper paint suffix
  unfold paint? at none
  cases paint with
  | fill => rw [if_pos same] at none; cases none
  | stroke => rw [if_neg (by rw [same]; decide), if_pos same] at none; cases none

theorem written_of_paint? {paint : PaintAttribute} (found : entry.paint? = some paint) :
    entry.written = (⟨paint, entry.value⟩ : Occurrence).written := by
  rw [written, name_of_paint? found]
  simp [quoted, Occurrence.written, PaintAttribute.written, PaintAttribute.opening]

/-! ### Where a key can start -/

/-- **A key that starts in an attribute ends with the attribute's name.** -/
theorem key_in_written {key ahead tail behind rest : Text} (noEquals : '=' ∉ key)
    (noQuote : '"' ∉ key) (keyNonempty : key ≠ []) (nonempty : tail ≠ [])
    (split : ' ' :: entry.written = ahead ++ tail) (start : tail ++ behind = key ++ '=' :: rest) :
    ' ' :: entry.name.text = ahead ++ key := by
  have nameFree : '=' ∉ ' ' :: entry.name.text := by
    intro member
    rcases List.mem_cons.mp member with same | member
    · exact absurd same (by decide)
    · exact entry.name.not_mem (by decide) member
  have shape : (' ' :: entry.name.text) ++ '=' :: '"' :: (entry.value ++ ['"']) = ahead ++ tail :=
    split
  rcases List.append_eq_append_iff.mp shape with ⟨gap, -, behindName⟩ | ⟨gap, nameEq, tailEq⟩
  · -- the key would start at the equals sign or behind it
    exfalso
    obtain ⟨first, key, rfl⟩ := List.exists_cons_of_ne_nil keyNonempty
    rcases gap with _ | ⟨_, _ | ⟨_, gap⟩⟩
    · rw [List.nil_append] at behindName
      rw [← behindName] at start
      exact noEquals ((List.cons.inj start).1 ▸ List.mem_cons_self)
    · have tailEq : '"' :: (entry.value ++ ['"']) = tail := (List.cons.inj behindName).2
      rw [← tailEq] at start
      exact noQuote ((List.cons.inj start).1 ▸ List.mem_cons_self)
    · have inside : entry.value ++ ['"'] = gap ++ tail :=
        (List.cons.inj (List.cons.inj behindName).2).2
      obtain ⟨inner, valueEq, rfl⟩ := Text.concat_of_append_eq nonempty inside
      have innerFree : '=' ∉ inner := fun member =>
        entry.equals_not_mem (valueEq ▸ List.mem_append_right _ member)
      rw [List.append_assoc] at start
      exact Text.name_not_start innerFree noQuote (by decide) start
  · rw [tailEq, List.append_assoc] at start
    have gapFree : '=' ∉ gap := fun member => nameFree (nameEq ▸ List.mem_append_right _ member)
    rw [nameEq, (Text.append_cons_inj gapFree noEquals start).1]

/-- An attribute that paints nothing is not recognised as a paint. -/
theorem refuses_paint (none : entry.paint? = none) (paint : PaintAttribute) (behind : Text) :
    Recogniser.Refuses paint.recognise (' ' :: entry.written) behind := by
  intro ahead tail split nonempty
  refine PaintAttribute.recognise_eq_none fun rest start => ?_
  rw [PaintAttribute.opening_append] at start
  have named := key_in_written (PaintAttribute.equals_not_mem_name paint)
    (by cases paint <;> decide) (by cases paint <;> decide) nonempty split start
  cases ahead with
  | nil => cases paint <;> exact absurd (List.cons.inj named).1 (by decide)
  | cons first ahead =>
    exact not_suffix_of_paint? none paint ⟨ahead, (List.cons.inj named).2.symm⟩

theorem space_refused (paint : PaintAttribute) (text : Text) :
    paint.recognise (' ' :: text) = none :=
  PaintAttribute.recognise_eq_none fun rest start => by
    cases paint <;> exact absurd (List.cons.inj start).1 (by decide)

/-- The values of one colour in an attribute. -/
def colours (paint : PaintAttribute) (entry : Attribute) : List Text :=
  if entry.paint? = some paint then [entry.value] else []

/-- The hits in an attribute are its own colours. -/
theorem hits_paint (paint : PaintAttribute) (entry : Attribute) (behind : Text) :
    paint.recognise.hits (' ' :: entry.written ++ behind) =
      entry.colours paint ++ paint.recognise.hits behind := by
  cases found : entry.paint? with
  | none =>
    rw [Recogniser.hits_append_of_refuses (refuses_paint found paint behind), colours, found]
    rfl
  | some other =>
    rw [List.cons_append, Recogniser.hits_of_none (space_refused paint _),
      written_of_paint? found, Occurrence.paint_hits_written entry.quote_not_mem, colours, found]
    · simp
    · rintro second ⟨ahead, valueEq⟩
      have split : ahead ++ (second.name ++ ['=']) = entry.value := valueEq
      exact entry.equals_not_mem (split ▸ by simp)

/-- Between attributes no paint is recognised. -/
theorem refusesGlue_paint (paint : PaintAttribute) : RefusesGlue paint.recognise := by
  intro stretch behind isGlue border ahead tail split nonempty
  refine PaintAttribute.recognise_eq_none fun rest start => ?_
  rw [PaintAttribute.opening_append] at start
  have tailFree : '=' ∉ tail := by
    intro member
    rcases isGlue _ (split ▸ List.mem_append_right _ member) with named | bracket
    · exact absurd named (by decide)
    · exact absurd bracket (by decide)
  cases behind with
  | nil =>
    rw [List.append_nil] at start
    exact tailFree (start ▸ by simp)
  | cons c behind =>
    have isBorder := border c rfl
    have foreign : ∀ c ∈ [' ', '<', '>', '/'], c ∉ paint.name := by
      cases paint <;> exact Text.forall_mem_of_all (by decide)
    refine Text.name_not_start tailFree (foreign c isBorder) ?_ start
    rintro rfl
    exact absurd isBorder (by decide)

theorem isSize_iff (entry : Attribute) :
    entry.isSize = true ↔ SizeAttribute.IsKey entry.name.text := by
  rw [isSize, SizeAttribute.IsKey, Bool.or_eq_true, decide_eq_true_iff, decide_eq_true_iff]

theorem isDashedName_parts {name : Text} (dashed : isDashedName name = true) {c : Char}
    (foreign : (isWordPart c || isJoint c) = false) : c ∉ name := by
  intro member
  have part := List.all_eq_true.mp (Bool.and_eq_true_iff.mp dashed).1 c member
  rw [foreign] at part
  cases part

end Attribute

end IconComponents.Element
