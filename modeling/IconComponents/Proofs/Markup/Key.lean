/-
**What the first and the last pass look for.**

The pass over the root's size and the pass over dashed names both read one white space character, a
key, and an equals sign. For each of them, what is read has this form, and a text of this form is
read.

* `SizeAttribute.key_of_recognise`, `SizeAttribute.recognise_written` — keys are `width`, `height`;
* `DashedName.key_of_recognise`, `DashedName.recognise_written` — keys are dashed names, which
  `isDashedName` describes without a text around them.
-/

import IconComponents.Markup.DashedName
import IconComponents.Markup.SvgTag
import IconComponents.Proofs.Text.Scan

namespace IconComponents

namespace SizeAttribute

/-- Whether a name is `width` or `height`. -/
def IsKey (key : Text) : Prop := key = "width".toList ∨ key = "height".toList

theorem afterName?_eq_some {text rest : Text} (found : afterName? text = some rest) :
    ∃ key, IsKey key ∧ text = key ++ '=' :: '"' :: rest := by
  unfold afterName? at found
  split at found
  · next other start =>
    cases found
    have split := Text.after?_eq_some_iff.mp start
    exact ⟨_, Or.inl rfl, split⟩
  · have split := Text.after?_eq_some_iff.mp found
    exact ⟨_, Or.inr rfl, split⟩

theorem afterName?_append {key : Text} (isKey : IsKey key) (rest : Text) :
    afterName? (key ++ '=' :: '"' :: rest) = some rest := by
  rcases isKey with rfl | rfl <;> rfl

theorem key_of_recognise {text : Text} {hit : Hit SizeAttribute text}
    (found : recognise text = some hit) :
    ∃ blank key rest, Char.isBlank blank = true ∧ IsKey key ∧
      text = blank :: key ++ '=' :: rest := by
  cases text with
  | nil => cases found
  | cons blank text =>
    rw [recognise] at found
    split at found
    · next isBlank =>
      split at found
      · cases found
      · next after start =>
        obtain ⟨key, isKey, rfl⟩ := afterName?_eq_some start
        exact ⟨blank, key, _, isBlank, isKey, rfl⟩
    · cases found

theorem recognise_written {blank : Char} {key value : Text} (isBlank : Char.isBlank blank = true)
    (isKey : IsKey key) (plain : '"' ∉ value) (rest : Text) :
    ∃ hit, recognise (blank :: key ++ '=' :: '"' :: (value ++ '"' :: rest)) = some hit ∧
      hit.rest = rest := by
  have start := afterName?_append isKey (value ++ '"' :: rest)
  have quoted := Text.quotedEnd?_append plain rest
  rw [List.cons_append, recognise]
  split
  · split
    · next none => rw [start] at none; cases none
    · next after same =>
      rw [start] at same
      cases same
      split
      · next none => rw [quoted] at none; cases none
      · next read behind same =>
        rw [quoted] at same
        cases same
        exact ⟨_, rfl, rfl⟩
  · next notBlank => exact absurd isBlank notBlank

end SizeAttribute

/-- Whether a name is made of words and joints, starts with a letter, and has at least two words. -/
def isDashedName (name : Text) : Bool :=
  name.all (fun c => isWordPart c || isJoint c) && isDashed name

namespace DashedName

theorem key_of_recognise {text : Text} {hit : Hit DashedName text}
    (found : recognise text = some hit) :
    ∃ blank key rest, Char.isBlank blank = true ∧ isDashedName key = true ∧
      text = blank :: key ++ '=' :: rest := by
  cases text with
  | nil => cases found
  | cons blank text =>
    rw [recognise] at found
    split at found
    · next rest tail =>
      simp only at found
      split at found
      · next holds =>
        obtain ⟨isBlank, dashed⟩ := Bool.and_eq_true_iff.mp holds
        refine ⟨blank, _, rest, isBlank, Bool.and_eq_true_iff.mpr ⟨List.all_takeWhile, dashed⟩, ?_⟩
        rw [List.cons_append, ← tail, List.takeWhile_append_dropWhile]
      · cases found
    · cases found

theorem recognise_written {blank : Char} {key : Text} (isBlank : Char.isBlank blank = true)
    (dashed : isDashedName key = true) (rest : Text) :
    ∃ hit, recognise (blank :: key ++ '=' :: rest) = some hit ∧ hit.value = ⟨blank, key⟩ ∧
      hit.rest = rest := by
  obtain ⟨parts, dashed⟩ := Bool.and_eq_true_iff.mp dashed
  have passes := List.all_eq_true.mp parts
  have taken : (key ++ '=' :: rest).takeWhile (fun c => isWordPart c || isJoint c) = key := by
    rw [List.takeWhile_append_of_pos passes, List.takeWhile_cons_of_neg (by decide),
      List.append_nil]
  have dropped : (key ++ '=' :: rest).dropWhile (fun c => isWordPart c || isJoint c) =
      '=' :: rest := by
    rw [List.dropWhile_append_of_pos passes, List.dropWhile_cons_of_neg (by decide)]
  rw [List.cons_append, recognise]
  split
  · next behind tail =>
    rw [dropped] at tail
    cases tail
    have holds : (Char.isBlank blank && isDashed
        ((key ++ '=' :: rest).takeWhile fun c => isWordPart c || isJoint c)) = true := by
      rw [taken, isBlank, dashed]
      rfl
    simp only
    rw [if_pos holds]
    exact ⟨_, rfl, by rw [taken], rfl⟩
  · next other => exact absurd dropped (other rest)

end DashedName

end IconComponents
