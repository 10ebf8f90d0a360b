/-
**The declarations of a masked style.**

A style in which the word stands alone and the masked one declare the same names, with the values
masked.

* `Tracks.terms`, `Tracks.value` — the terms of a value, and the text that they cover;
* `Tracks.importance`, `Tracks.declaredValue` — what is behind a name;
* `declarations_masked` — all declarations.
-/

import IconComponents.Proofs.Svg.MaskedTerm

namespace IconComponents.Svg

variable {style mask text masked rest rest' : Text}

/-! ### Values -/

theorem terms?_eq (last text : Text) : terms? last text =
    if (term text).found then
      (skipComments? (term text).rest).bind fun behind => terms? (term text).rest behind
    else some (last, (term text).rest) := by
  rw [terms?]
  split
  · next read => simp only [read, Bool.false_eq_true, if_false]
  · next rest read =>
    simp only [read, if_true]
    split
    · next skipped => simp only [skipped, Option.bind_none]
    · next skipped => simp only [skipped, Option.bind_some]

theorem skipSemicolons?_eq (text : Text) : skipSemicolons? text =
    (skipComments? text).bind fun rest =>
      if rest.head? = some ';' then skipSemicolons? rest.tail else some rest := by
  rw [skipSemicolons?]
  split
  · next rest skipped => simp only [skipped, Option.bind_some, List.head?_cons, if_true, List.tail_cons]
  · next other =>
    cases skipped : skipComments? text with
    | none => rfl
    | some rest =>
      rw [Option.bind_some, if_neg]
      intro semicolon
      obtain ⟨behind, rfl⟩ := List.head?_eq_some_iff.mp semicolon
      exact other behind skipped

theorem importance?_eq (text : Text) : importance? text =
    if text.head? = some '!' then
      (skipComments? text.tail).map fun text =>
        ((Text.after? "important".toList text).isSome,
          (Text.after? "important".toList text).getD text)
    else some (false, text) := by
  unfold importance?
  split
  · next inner =>
    rw [List.head?_cons, if_pos rfl, List.tail_cons]
    congr 1
    funext text
    cases Text.after? "important".toList text <;> rfl
  · next other =>
    rw [if_neg]
    intro mark
    obtain ⟨inner, rfl⟩ := List.head?_eq_some_iff.mp mark
    exact other inner rfl

section

variable (alone : StandsAlone style) (isHashed : IsHashed mask)

include alone isHashed

/-- **The terms of a value** end at the same place; what is left behind the last one is no longer
than what they are read from. -/
theorem Tracks.terms {last last' : Text} {bound : Nat} (tracks : Tracks style mask text masked)
    (lasts : Tracks style mask last last') (short : text.length ≤ bound)
    (short' : last.length ≤ bound) :
    Option.Rel (fun read read' => Tracks style mask read.1 read'.1 ∧ read.1.length ≤ bound ∧
      Tracks style mask read.2 read'.2) (terms? last text) (terms? last' masked) := by
  induction size : text.length using Nat.strongRecOn generalizing text masked last last' with
  | _ n ih =>
    subst size
    obtain ⟨found, left⟩ := tracks.term alone isHashed
    rw [terms?_eq, terms?_eq, ← found]
    split
    · next taken =>
      have shorter : (Svg.term text).rest.length < text.length :=
        length_lt_of_term (show Svg.term text = ⟨true, (Svg.term text).rest⟩ by rw [← taken])
      refine rel_bind (left.skipComments alone isHashed.toIsMask) fun behind _ skipped gaps => ?_
      have shorter' := length_le_of_skipComments? skipped
      exact ih _ (by omega) gaps left (by omega) (by omega) rfl
    · exact .some ⟨lasts, short', left⟩

/-- Semicolons are skipped alike. -/
theorem Tracks.skipSemicolons (tracks : Tracks style mask text masked) :
    Option.Rel (Tracks style mask) (skipSemicolons? text) (skipSemicolons? masked) := by
  induction size : text.length using Nat.strongRecOn generalizing text masked with
  | _ n ih =>
    subst size
    rw [skipSemicolons?_eq, skipSemicolons?_eq]
    refine rel_bind (tracks.skipComments alone isHashed.toIsMask) fun rest rest' skipped gaps => ?_
    have semicolon := gaps.alongside.head?_eq_iff isHashed.toIsMask (c := ';') (by decide)
      (by decide)
    by_cases ends : rest.head? = some ';'
    · rw [if_pos ends, if_pos (semicolon.mp ends)]
      obtain ⟨behind, rfl⟩ := List.head?_eq_some_iff.mp ends
      obtain ⟨behind', rfl, left⟩ := gaps.cons alone isHashed.toIsMask (by decide)
      have shorter := length_le_of_skipComments? skipped
      rw [List.length_cons] at shorter
      exact ih _ shorter left rfl
    · rw [if_neg ends, if_neg (mt semicolon.mpr ends)]
      exact .some gaps

/-- The mark of an important value. -/
theorem Tracks.importance (tracks : Tracks style mask text masked) :
    Option.Rel (fun read read' => read.1 = read'.1 ∧ Tracks style mask read.2 read'.2)
      (importance? text) (importance? masked) := by
  have isMask := isHashed.toIsMask
  have mark := tracks.alongside.head?_eq_iff isMask (c := '!') (by decide) (by decide)
  rw [importance?_eq, importance?_eq]
  by_cases marked : text.head? = some '!'
  · rw [if_pos marked, if_pos (mark.mp marked)]
    obtain ⟨inner, rfl⟩ := List.head?_eq_some_iff.mp marked
    obtain ⟨inner', rfl, behind⟩ := tracks.cons alone isMask (by decide)
    have gaps := behind.skipComments alone isMask
    rw [List.tail_cons, List.tail_cons]
    generalize skipComments? inner = gap at gaps
    generalize skipComments? inner' = gap' at gaps
    cases gaps with
    | none => exact .none
    | @some rest rest' gaps =>
      have fixed : ∀ c ∈ "important".toList, (c ≠ 'c' ∧ c ≠ 'C') ∧ c ≠ '#' := by simp
      have word := gaps.after? alone isMask fixed
      rw [Option.map_some, Option.map_some]
      generalize Text.after? "important".toList rest = one at word
      generalize Text.after? "important".toList rest' = other at word
      cases word with
      | none => exact .some ⟨rfl, gaps⟩
      | some word => exact .some ⟨rfl, word⟩
  · rw [if_neg marked, if_neg (mt mark.mpr marked)]
    exact .some ⟨rfl, tracks⟩

omit isHashed in
/-- What stands in front of the place behind the last term. -/
theorem Tracks.value {last last' : Text} (tracks : Tracks style mask text masked)
    (lasts : Tracks style mask last last') (short : last.length ≤ text.length) :
    Aligned mask (text.take (text.length - last.length))
      (masked.take (masked.length - last'.length)) := by
  obtain ⟨piece, rfl⟩ := List.suffix_of_suffix_length_le lasts.suffix tracks.suffix short
  rw [tracks.between alone lasts]
  simp only [List.length_append, Nat.add_sub_cancel, List.take_left']
  exact ⟨rfl⟩

/-- **The value of a declaration** is masked by itself. -/
theorem Tracks.declaredValue (tracks : Tracks style mask text masked) :
    Option.Rel (fun read read' => Aligned mask read.1 read'.1 ∧ read.2.1 = read'.2.1 ∧
      Tracks style mask read.2.2 read'.2.2) (declaredValue? text) (declaredValue? masked) := by
  have isMask := isHashed.toIsMask
  unfold declaredValue?
  simp only [Option.bind_eq_bind]
  refine rel_bind (tracks.skipComments alone isMask) fun start start' _ begins => ?_
  refine rel_bind (begins.terms alone isHashed begins (Nat.le_refl _) (Nat.le_refl _)) ?_
  rintro ⟨last, rest⟩ ⟨last', rest'⟩ - ⟨lasts, short, rests⟩
  refine rel_bind (rests.skipComments alone isMask) fun gap gap' _ gaps => ?_
  refine rel_bind (gaps.importance alone isHashed) ?_
  rintro ⟨important, behind⟩ ⟨_, behind'⟩ - ⟨rfl, behinds⟩
  refine rel_bind (behinds.skipSemicolons alone isHashed) fun _ _ _ ends => ?_
  have value := (begins.value alone lasts short).trim isMask
  rw [value.alongside.isEmpty_eq isMask]
  split
  · exact .none
  · exact .some ⟨value, rfl, ends⟩

end

/-! ### Declarations -/

/-- Two declarations of the same name, the value of the second one masked. -/
structure Declaration.Masked (mask : Text) (declaration declaration' : Declaration) : Prop where
  name : declaration.name = declaration'.name
  value : Aligned mask declaration.value declaration'.value
  important : declaration.important = declaration'.important

theorem declarations_eq (text : Text) : declarations text =
    (declaredName? text).elim [] fun (name, start) =>
      (declaredValue? start).elim [] fun (value, important, rest) =>
        ⟨name, value, important⟩ :: declarations rest := by
  rw [declarations]
  split
  · next unnamed => simp only [unnamed, Option.elim_none]
  · next name start named =>
    simp only [named, Option.elim_some]
    split
    · next unset => simp only [unset, Option.elim_none]
    · next given => simp only [given, Option.elim_some]

/-- A style has the same declarations when masked, with masked values. -/
theorem Tracks.declarations (alone : StandsAlone style) (isHashed : IsHashed mask)
    (tracks : Tracks style mask text masked) :
    List.Forall₂ (Declaration.Masked mask) (declarations text) (declarations masked) := by
  induction size : text.length using Nat.strongRecOn generalizing text masked with
  | _ n ih =>
    subst size
    have names := tracks.declaredName alone isHashed.toIsMask
    have shorter {name start : Text} (named : declaredName? text = some (name, start)) :=
      length_lt_of_declaredName? named
    rw [declarations_eq, declarations_eq]
    generalize declaredName? text = one at names shorter
    generalize declaredName? masked = other at names
    cases names with
    | none => exact .nil
    | @some read read' names =>
      obtain ⟨name, start⟩ := read
      obtain ⟨name', start'⟩ := read'
      obtain ⟨same, starts⟩ := names
      simp only [Option.elim_some]
      have values := starts.declaredValue alone isHashed
      have shorter' {value rest : Text} {important : Bool}
          (given : declaredValue? start = some (value, important, rest)) :=
        length_le_of_declaredValue? given
      generalize declaredValue? start = one at values shorter'
      generalize declaredValue? start' = other at values
      cases values with
      | none => exact .nil
      | @some read read' values =>
        obtain ⟨value, important, rest⟩ := read
        obtain ⟨value', important', rest'⟩ := read'
        obtain ⟨value, important, rests⟩ := values
        refine .cons ⟨same, value, important⟩ (ih _ ?_ rests rfl)
        exact Nat.lt_of_le_of_lt (shorter' rfl) (shorter rfl)

/-- **A style in which the word stands alone** declares the same when it is masked, with its values
masked. -/
theorem declarations_masked (alone : StandsAlone style) (isHashed : IsHashed mask) :
    List.Forall₂ (Declaration.Masked mask) (declarations style)
      (declarations (maskWith mask style)) :=
  tracks_self.declarations alone isHashed

end IconComponents.Svg
