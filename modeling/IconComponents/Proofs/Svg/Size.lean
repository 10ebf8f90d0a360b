/-
**The size of a picture.**

A document without a size is refused, so the size of every picture is positive. It is written in the
root's tag, which has no view box of its own, so the icon of a picture gets one. Of those who draw
nothing else is needed.

* `Picture.hasSize` — the size of a picture that a document shows is positive;
* `Drawn.IsSized` — a drawing with a positive size, written without a view box;
* `Engines.standard_drawsSized` — pictures are drawn so;
* `Engines.exists_drawn` — every icon is a drawing;
* `Drawn.IsSized.markup_eq` — where its view box stands.
-/

import IconComponents.Minify
import IconComponents.Proofs.Markup.ViewBox
import IconComponents.Proofs.Svg.Shapes
import IconComponents.Proofs.Svg.Unmask

namespace IconComponents

/-! ### Positive numbers -/

theorem Binary.toRat_zero (format : Format) : (Binary.ofInt format 0).toRat = 0 := by
  simp [Binary.ofInt, Binary.ofRat, Binary.toRat]

theorem Binary.toRat_pos {format : Format} {n : Binary format} (positive : n.isPositive = true)
    (finite : n.isFinite = true) : 0 < n.toRat := by
  cases n with
  | nan => cases finite
  | infinite negative => cases finite
  | finite negative significand exponent =>
    have above := of_decide_eq_true (p := (Binary.ofInt format 0).toRat < _) positive
    rwa [Binary.toRat_zero] at above

namespace Svg

variable {source : Text} {picture : Picture} {written : List Xml.Attribute} {inside : Xml.Forest}

/-- A size with both sides above zero. -/
def Picture.HasSize (width height : Single) : Prop := 0 < width.toRat ∧ 0 < height.toRat

theorem Picture.hasSize_of_isSize {width height : Single} (isSize : isSize width height = true) :
    HasSize width height := by
  simp only [Picture.isSize, Bool.and_eq_true] at isSize
  obtain ⟨⟨⟨wide, finite⟩, high⟩, finite'⟩ := isSize
  exact ⟨Binary.toRat_pos wide finite, Binary.toRat_pos high finite'⟩

/-- The picture of a root element has a size. -/
theorem Picture.hasSize_of_root (shown : Picture.ofRoot? written inside = some picture) :
    HasSize picture.width picture.height := by
  unfold Picture.ofRoot? at shown
  simp only at shown
  split at shown
  · cases shown
  · next sized =>
    have given := hasSize_of_isSize (by simpa using sized)
    split at shown
    · cases shown
      exact given
    · split at shown
      · next drawn =>
        simp only [Bool.and_eq_true] at drawn
        cases shown
        exact hasSize_of_isSize drawn.2
      · cases shown
        exact given

/-- **The size of a picture is positive.** -/
theorem Picture.hasSize (shown : Picture.ofDocument source = .ok picture) :
    HasSize picture.width picture.height := by
  obtain ⟨_, _, _, _, -, found⟩ := Picture.exists_root shown
  exact hasSize_of_root found

/-! ### The view box of a picture -/

/-- The attributes of the root's tag. -/
def Picture.rootAttributes (picture : Picture) : Text :=
  attributeText "width" picture.width.text ++ attributeText "height" picture.height.text ++
    attributeText "xmlns" svgNamespace

/-- They hold neither a mark nor a bracket nor the capital of a view box. -/
theorem Picture.not_mem_rootAttributes (picture : Picture) {c : Char} (foreign : c ∈ ['#', '>', 'B']) :
    c ∉ picture.rootAttributes := by
  have apart (text : Text) (free : text.all (fun b => b != '#' && b != '>' && b != 'B') = true) :
      c ∉ text := fun member => by
    have neither := List.all_eq_true.mp free c member
    simp only [List.mem_cons, List.not_mem_nil, or_false] at foreign
    rcases foreign with rfl | rfl | rfl <;> cases neither
  have number (n : Single) : c ∉ n.text := (isNumeral_binary n).not_mem (apart _ (by decide))
  have own : c ∉ attributeCharacters := apart _ (by decide)
  simp only [rootAttributes, List.mem_append, not_or]
  exact ⟨⟨not_mem_attribute own (apart _ (by decide)) (number _),
    not_mem_attribute own (apart _ (by decide)) (number _)⟩,
    not_mem_attribute own (apart _ (by decide)) (apart _ (by decide))⟩

/-- A picture is written with the attributes in the tag of its root. -/
theorem Picture.exists_text (picture : Picture) (common : Text) : ∃ behind,
    picture.text common = SvgTag.opening ++ picture.rootAttributes ++ '>' :: behind := by
  refine ⟨"<defs/>".toList ++ (picture.drawing.spelled Color.text (idText common) ++
    "</svg>".toList), ?_⟩
  have bracket : "><defs/>".toList = '>' :: "<defs/>".toList := rfl
  rw [picture.text_eq_spelled]
  unfold Picture.spelled rootAttributes
  rw [bracket]
  simp only [SvgTag.opening, List.append_assoc, List.cons_append]

end Svg

/-! ### Drawn files -/

/-- What is drawn has a positive size and is written as a document whose first tag opens the root,
with attributes that hold no mark, no bracket and no view box. -/
structure Drawn.IsSized (drawn : Drawn) : Prop where
  width : 0 < drawn.width.toRat
  height : 0 < drawn.height.toRat
  root : ∀ common, ∃ attributes behind,
    drawn.written common = SvgTag.opening ++ attributes ++ '>' :: behind ∧
      '#' ∉ attributes ∧ '>' ∉ attributes ∧ ¬ viewBoxOpening <:+: attributes

/-- Whatever is drawn is so. -/
def Engines.DrawsSized (engines : Engines) : Prop :=
  ∀ content drawn, engines.draw content = .ok drawn → drawn.IsSized

theorem Svg.Picture.exists_document {content : Content} {picture : Svg.Picture}
    (shown : ofContent content = .ok picture) : ∃ source, ofDocument source = .ok picture := by
  cases content with
  | text source => exact ⟨source, shown⟩
  | binary bytes =>
    rw [ofContent, ofBinary] at shown
    split at shown
    · split at shown
      · split at shown
        · next source _ => exact ⟨source.toList, shown⟩
        · cases shown
      · cases shown
    · cases shown

/-- **The drawings of the library have a size.** -/
theorem Engines.standard_drawsSized : Engines.standard.DrawsSized := by
  intro content drawn drew
  change (Svg.Picture.ofContent content).map Drawn.ofPicture = .ok drawn at drew
  cases shown : Svg.Picture.ofContent content with
  | error error => rw [shown] at drew; cases drew
  | ok picture =>
    rw [shown] at drew
    cases drew
    obtain ⟨source, read⟩ := Svg.Picture.exists_document shown
    obtain ⟨wide, high⟩ := Svg.Picture.hasSize read
    refine ⟨wide, high, fun common => ?_⟩
    obtain ⟨behind, written⟩ := picture.exists_text common
    refine ⟨picture.rootAttributes, behind, written, picture.not_mem_rootAttributes (by decide),
      picture.not_mem_rootAttributes (by decide), fun inside => ?_⟩
    have letter : 'B' ∈ picture.rootAttributes := inside.subset (by decide)
    exact picture.not_mem_rootAttributes (by decide) letter

/-! ### Icons of drawn files -/

section Icons

variable {engines : Engines} {drawn : Drawn} {content : Content} {path common : Text} {icon : Icon}
  {restore : Text → Text}

/-- What restores a text leaves what holds no mark. -/
def LeavesUnmarked (restore : Text → Text) : Prop :=
  ∀ text behind : Text, '#' ∉ text → restore (text ++ behind) = text ++ restore behind

/-- Turning a mask back leaves texts without marks alone. -/
theorem leavesUnmarked_unmask {mask : Text} (isMask : IsMask mask) :
    LeavesUnmarked (unmask mask) :=
  fun _ behind free => Svg.turnsInto_self isMask free behind

/-- **Every icon is a drawing** in which at most marks have been turned back. -/
theorem Engines.exists_drawn (accepted : engines.minify content path common = .ok icon) :
    ∃ source drawn restore, engines.draw source = .ok drawn ∧ LeavesUnmarked restore ∧
      icon = .ofDrawn drawn path common restore := by
  unfold Engines.minify at accepted
  split at accepted
  · next masked color found =>
    obtain ⟨source, -, masks⟩ := Option.bind_eq_some_iff.mp found
    obtain ⟨green, byte, rfl⟩ := (mask?_eq_some masks).color
    cases drew : engines.draw (.text masked) with
    | error error => rw [drew] at accepted; cases accepted
    | ok drawn =>
      rw [drew] at accepted
      cases accepted
      exact ⟨_, drawn, _, drew, leavesUnmarked_unmask (isMask_maskColor byte), rfl⟩
  · cases drew : engines.draw content with
    | error error => rw [drew] at accepted; cases accepted
    | ok drawn =>
      rw [drew] at accepted
      cases accepted
      exact ⟨_, drawn, id, drew, fun _ _ _ => rfl, rfl⟩

/-- The document that is written of a drawing gets a view box behind the name of its first tag. -/
theorem Drawn.IsSized.markup_eq (sized : drawn.IsSized) (leaves : LeavesUnmarked restore)
    (path common : Text) : ∃ behind, (Icon.ofDrawn drawn path common restore).markup =
      SvgTag.opening ++ (viewBoxAttribute drawn.width drawn.height ++ behind) := by
  obtain ⟨attributes, behind, written, unmarked, single, lacks⟩ := sized.root common
  have restored : restore (drawn.written common) =
      SvgTag.opening ++ (attributes ++ '>' :: restore behind) := by
    have split : drawn.written common = (SvgTag.opening ++ attributes ++ ['>']) ++ behind := by
      rw [written, List.append_assoc _ ['>'], List.singleton_append]
    rw [split, leaves]
    · simp only [List.append_assoc, List.singleton_append]
    · simp only [List.mem_append, not_or]
      exact ⟨⟨by decide, unmarked⟩, by decide⟩
  have lacks' : LacksViewBox (attributes ++ '>' :: restore behind) := by
    have passes : ∀ c ∈ attributes, (c != '>') = true := fun c member => by
      rw [bne_iff_ne]
      rintro rfl
      exact single member
    rw [LacksViewBox, Text.upTo, List.takeWhile_append_of_pos passes,
      List.takeWhile_cons_of_neg (by decide), List.append_nil]
    exact lacks
  refine ⟨attributes ++ '>' :: restore behind, ?_⟩
  show ensureViewBox (restore (drawn.written common)) drawn.width drawn.height = _
  rw [restored, ensureViewBox_of_isFirst (Text.isFirst_front SvgTag.opening _) lacks',
    List.nil_append]

end Icons

end IconComponents
