/-
**The view box stays where it was put.**

A view box is put behind the first `<svg` of a text, wherever the name of that tag ends; with it, the
name does end there. So the pass over the root's size, which looks for the end of a name, takes the
same tag for the root, and nothing that it drops reaches into the view box.

* `ensureViewBox_of_isFirst` — a view box is put there if the tag has none;
* `ensureViewBox_again` — the tag then has one;
* `stripRootSize_inserted` — the pass over the root's size keeps it in its place;
* `ensureViewBox_stable` — all of this for any text and any sizes.
-/

import IconComponents.Markup.ViewBox
import IconComponents.Proofs.Markup.SizeAttribute
import IconComponents.Proofs.Markup.SvgTag
import IconComponents.Proofs.Number.Numeral
import IconComponents.Proofs.Text.Needle

namespace IconComponents

variable {markup before after : Text} {width height : Single}

/-! ### The attribute -/

/-- The text before the value of a view box attribute. -/
def viewBoxOpening : Text := "viewBox=\"".toList

/-- The numbers behind the first one of a view box, with the white space between them. -/
def viewBoxNumbers (width height : Single) : Text :=
  " 0 ".toList ++ formatDimension width ++ [' '] ++ formatDimension height

theorem viewBoxAttribute_eq (width height : Single) : viewBoxAttribute width height =
    ' ' :: (viewBoxOpening ++ '0' :: (viewBoxNumbers width height ++ ['"'])) := by
  have words : " viewBox=\"0 0 ".toList = ' ' :: (viewBoxOpening ++ '0' :: " 0 ".toList) := by decide
  unfold viewBoxAttribute viewBoxNumbers
  rw [words]
  generalize formatDimension width = first, formatDimension height = second
  simp only [List.append_assoc, List.cons_append]

theorem forall_mem_viewBoxNumbers {P : Char → Prop} (space : P ' ')
    (numeral : ∀ c ∈ numeralCharacters, P c) : ∀ c ∈ viewBoxNumbers width height, P c := by
  intro c member
  simp only [viewBoxNumbers, List.mem_append] at member
  rcases member with ((zero | inWidth) | between) | inHeight
  · have kinds : ∀ c ∈ " 0 ".toList, c = ' ' ∨ c ∈ numeralCharacters :=
      Text.forall_mem_of_all (by decide)
    rcases kinds c zero with rfl | inZero
    · exact space
    · exact numeral c inZero
  · exact numeral c (isNumeral_dimension width c inWidth)
  · exact List.mem_singleton.mp between ▸ space
  · exact numeral c (isNumeral_dimension height c inHeight)

theorem bracket_not_mem_viewBoxAttribute : '>' ∉ viewBoxAttribute width height := by
  have numbers : '>' ∉ viewBoxNumbers width height := fun member =>
    forall_mem_viewBoxNumbers (P := (· ≠ '>')) (by decide)
      (Text.forall_mem_of_all (by decide)) _ member rfl
  have name : '>' ∉ viewBoxOpening := by decide
  simp [viewBoxAttribute_eq, numbers, name]

/-! ### Putting it there -/

/-- A text that has no view box in front of its first `>`. -/
def LacksViewBox (after : Text) : Prop := ¬ viewBoxOpening <:+: Text.upTo '>' after

/-- A first tag without a view box gets one. -/
theorem ensureViewBox_of_isFirst (place : Text.IsFirst SvgTag.opening markup before after)
    (lacks : LacksViewBox after) : ensureViewBox markup width height =
      before ++ (SvgTag.opening ++ (viewBoxAttribute width height ++ after)) := by
  have absent : ¬ Text.contains (Text.upTo '>' after) "viewBox=\"".toList = true := fun found =>
    lacks (Text.contains_eq_true_iff.mp found)
  rw [ensureViewBox, Text.cut?_eq_some_iff.mpr place]
  simp only
  rw [if_neg absent, List.append_assoc, List.append_assoc]

/-- A first tag with a view box is kept. -/
theorem ensureViewBox_of_not_lacks
    (has : ∀ before after, Text.IsFirst SvgTag.opening markup before after → ¬ LacksViewBox after) :
    ensureViewBox markup width height = markup := by
  rw [ensureViewBox]
  cases found : Text.cut? SvgTag.opening markup with
  | none => rfl
  | some place =>
    have named := not_not.mp (has _ _ (Text.cut?_eq_some_iff.mp found))
    exact if_pos (Text.contains_eq_true_iff.mpr named)

theorem not_lacksViewBox_inserted (after : Text) :
    ¬ LacksViewBox (viewBoxAttribute width height ++ after) := by
  refine not_not.mpr ?_
  have passes : ∀ c ∈ viewBoxAttribute width height, (c != '>') = true := fun c member => by
    rw [bne_iff_ne]
    exact fun same => bracket_not_mem_viewBoxAttribute (same ▸ member)
  rw [Text.upTo, List.takeWhile_append_of_pos passes, viewBoxAttribute_eq]
  exact ⟨[' '], '0' :: (viewBoxNumbers width height ++ ['"']) ++ after.takeWhile (· != '>'), by simp⟩

/-- **Once it is there**, no other one is put there, whatever the size. -/
theorem ensureViewBox_again (place : Text.IsFirst SvgTag.opening markup before after)
    (width' height' : Single) :
    ensureViewBox (before ++ (SvgTag.opening ++ (viewBoxAttribute width height ++ after)))
        width' height' =
      before ++ (SvgTag.opening ++ (viewBoxAttribute width height ++ after)) := by
  refine ensureViewBox_of_not_lacks fun before' after' place' => ?_
  have same := (Text.cut?_eq_some_iff.mpr place').symm.trans
    (Text.cut?_eq_some_iff.mpr (place.of_behind (viewBoxAttribute width height ++ after)))
  cases same
  exact not_lacksViewBox_inserted after

/-! ### The pass over the root's size -/

open SizeAttribute

/-- No size reaches into a view box. -/
theorem dropSizes_viewBoxAttribute (behind : Text) :
    dropSizes (viewBoxAttribute width height ++ behind) =
      viewBoxAttribute width height ++ dropSizes behind := by
  have numbers : ∀ c ∈ viewBoxNumbers width height, startsKey c = false :=
    forall_mem_viewBoxNumbers (by decide) (Text.forall_mem_of_all (by decide))
  have quote : dropSizes ('"' :: behind) = '"' :: dropSizes behind :=
    Recogniser.rewrite_of_none (recognise_eq_none_of_solid (by decide) behind)
  have values : dropSizes (viewBoxNumbers width height ++ '"' :: behind) = _ :=
    dropSizes_append_of_next numbers (by decide) behind
  have name : dropSizes (viewBoxOpening ++ ['0'] ++
      (viewBoxNumbers width height ++ '"' :: behind)) = _ :=
    dropSizes_append_of_solid (Text.forall_mem_of_all (by decide)) _
  have blank : dropSizes (' ' :: 'v' :: (viewBoxOpening.tail ++ ['0'] ++
      (viewBoxNumbers width height ++ '"' :: behind))) = _ :=
    Recogniser.rewrite_of_none (recognise_eq_none_of_next (by decide) _)
  have shape : ∀ rest, viewBoxAttribute width height ++ rest = ' ' :: (viewBoxOpening ++ ['0'] ++
      (viewBoxNumbers width height ++ '"' :: rest)) := fun rest => by simp [viewBoxAttribute_eq]
  rw [shape, shape, ← quote, ← values, ← name]
  exact blank

/-- What is behind the name of a tag, without the sizes in the tag; of a tag that does not end, all. -/
def dropTagSizes (after : Text) : Text :=
  if '>' ∈ after then dropSizes (Text.upTo '>' after) ++ after.dropWhile (· != '>') else after

/-- **The same tag is the root** for the pass over its size, and the view box stays in its place. -/
theorem stripRootSize_inserted (place : Text.IsFirst SvgTag.opening markup before after) :
    stripRootSize (before ++ (SvgTag.opening ++ (viewBoxAttribute width height ++ after))) =
      before ++ (SvgTag.opening ++ (viewBoxAttribute width height ++ dropTagSizes after)) := by
  have moved := place.of_behind (viewBoxAttribute width height ++ after)
  by_cases closed : '>' ∈ after
  · obtain ⟨inside, rest, rfl, free⟩ := List.eq_append_cons_of_mem closed
    have passes : ∀ c ∈ inside, (c != '>') = true := fun c member => by
      rw [bne_iff_ne]
      exact fun same => free (same ▸ member)
    have root : SvgTag.IsFirst _ before (viewBoxAttribute width height ++ inside) rest :=
      ⟨moved.split.trans (by simp), rfl, by simp [bracket_not_mem_viewBoxAttribute, free],
        fun ahead behind split _ => moved.first ahead behind split⟩
    rw [stripRootSize_of_find (SvgTag.find?_eq_some_iff.mpr root), dropSizes_viewBoxAttribute,
      dropTagSizes, if_pos closed, Text.upTo, List.takeWhile_append_of_pos passes,
      List.takeWhile_cons_of_neg (by decide), List.dropWhile_append_of_pos passes,
      List.dropWhile_cons_of_neg (by decide), List.append_nil, List.append_assoc]
  · have without : ¬ SvgTag.HoldsTag
        (before ++ (SvgTag.opening ++ (viewBoxAttribute width height ++ after))) := by
      rintro ⟨ahead, behind, split, -, ends⟩
      have least := moved.first ahead behind split
      have sizes := congrArg List.length split
      simp only [List.length_append] at sizes
      have tail : behind <:+ viewBoxAttribute width height ++ after := by
        have later : behind <:+ ahead ++ (SvgTag.opening ++ behind) :=
          ⟨ahead ++ SvgTag.opening, List.append_assoc _ _ _⟩
        have sooner : viewBoxAttribute width height ++ after <:+
            ahead ++ (SvgTag.opening ++ behind) :=
          ⟨before ++ SvgTag.opening, by rw [← split, List.append_assoc]⟩
        refine List.suffix_of_suffix_length_le later sooner ?_
        rw [List.length_append]
        omega
      exact (List.mem_append.mp (tail.mem ends)).elim bracket_not_mem_viewBoxAttribute closed
    rw [stripRootSize, SvgTag.find?_eq_none_iff.mpr without, dropTagSizes, if_neg closed]

/-- **A view box is put into a text once, and stays there.** Either the text has no `<svg`, or one with
a view box in front of the first `>` behind it, and it is kept; or the one attribute is put right behind
its first `<svg`, where the pass over the root's size leaves it. In both cases the text is then kept,
whatever the size. -/
theorem ensureViewBox_stable (markup : Text) (width height width' height' : Single) :
    (((∀ before after, Text.IsFirst SvgTag.opening markup before after → ¬ LacksViewBox after) ∧
        ensureViewBox markup width height = markup) ∨
      ∃ before after, Text.IsFirst SvgTag.opening markup before after ∧ LacksViewBox after ∧
        ensureViewBox markup width height =
          before ++ (SvgTag.opening ++ (viewBoxAttribute width height ++ after)) ∧
        stripRootSize (ensureViewBox markup width height) =
          before ++ (SvgTag.opening ++ (viewBoxAttribute width height ++ dropTagSizes after))) ∧
    ensureViewBox (ensureViewBox markup width height) width' height' =
      ensureViewBox markup width height := by
  by_cases has : ∀ before after,
      Text.IsFirst SvgTag.opening markup before after → ¬ LacksViewBox after
  · have kept : ∀ width height, ensureViewBox markup width height = markup := fun _ _ =>
      ensureViewBox_of_not_lacks has
    rw [kept, kept]
    exact ⟨Or.inl ⟨has, rfl⟩, rfl⟩
  · simp only [not_forall, not_not] at has
    obtain ⟨before, after, place, lacks⟩ := has
    rw [ensureViewBox_of_isFirst place lacks]
    exact ⟨Or.inr ⟨before, after, place, lacks, rfl, stripRootSize_inserted place⟩,
      ensureViewBox_again place width' height'⟩

end IconComponents
