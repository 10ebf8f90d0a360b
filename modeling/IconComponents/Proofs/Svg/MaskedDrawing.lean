/-
**The drawing of a masked document.**

Where the word can be told apart, a masked document is drawn as the document is, shape by shape: each
has its outline, and its paints are its own, but the masking colour for the word.

* `paintText?`, `Surroundings.fillText?`, `Surroundings.strokeText?` — what paints are to be
  written as;
* `fill?_masked`, `stroke?_masked` — the paints of a masked shape;
* `PaintedAs`, `Draws` — a shape and its path, a document and its picture;
* `WordApart` — documents in which the word can be told apart;
* `draws_masked`, `draws_silent` — documents that are masked, and those that need not be.
-/

import IconComponents.Proofs.Svg.MaskedPaint
import IconComponents.Proofs.Svg.MaskedShape
import IconComponents.Proofs.Svg.Unmask

namespace IconComponents.Svg

variable {mask text masked value id : Text} {green : Nat}

/-! ### Fills and strokes -/

variable {around around' : Surroundings} {identifiers identifiers' : List Text} {view : View}

/-- The colour of a fill, black if none is given. -/
theorem fill?_color (around : Surroundings) (identifiers : List Text) :
    (around.fill? identifiers).map (·.color) = (around.fromHolder "fill").paint? identifiers
      ((PaintValue.parse? ((around.find? "fill").getD "black".toList)).getD
        ⟨none, .color Color.black⟩) := by
  unfold Surroundings.fill?
  simp only [Option.bind_eq_bind]
  cases (around.fromHolder "fill").paint? identifiers _ <;> rfl

/-- Whether a stroke has a width. -/
def Surroundings.hasWidth (around : Surroundings) (view : View) : Bool :=
  let width := around.pixels view.meanSide "stroke-width" (.ofInt .single 1)
  width.isPositive && width.isFinite

/-- The colour of a stroke that has a width. -/
theorem stroke?_color (around : Surroundings) (identifiers : List Text) (view : View) :
    (around.stroke? identifiers view).map (·.color) =
      if around.hasWidth view then
        ((around.find? "stroke").bind PaintValue.parse?).bind
          ((around.fromHolder "stroke").paint? identifiers)
      else none := by
  unfold Surroundings.stroke? Surroundings.hasWidth
  simp only [Option.bind_eq_bind]
  cases around.find? "stroke" with
  | none => simp
  | some value =>
    rw [Option.bind_some, Option.bind_some]
    cases PaintValue.parse? value with
    | none => simp
    | some paint =>
      rw [Option.bind_some, Option.bind_some]
      cases (around.fromHolder "stroke").paint? identifiers paint with
      | none => simp
      | some color =>
        rw [Option.bind_some]
        split <;> rfl

/-- Paints that are not the surrounding colour do not depend on what is around. -/
theorem paint?_of_ne_surrounding {paint : PaintValue} (other : paint.paint ≠ .surrounding)
    (links : paint.link?.any identifiers'.contains = paint.link?.any identifiers.contains)
    (around around' : Surroundings) :
    around'.paint? identifiers' paint = around.paint? identifiers paint := by
  obtain ⟨link?, paint⟩ := paint
  unfold Surroundings.paint?
  rw [links]
  cases paint with
  | surrounding => exact absurd rfl other
  | nothing => rfl
  | color color => rfl

/-- What a fill or a stroke with a value is to be written as: the word if it asks for the
surrounding colour, unless an element is linked, and its own colour otherwise. -/
def paintText? (value? : Option Text) (identifiers : List Text) (color? : Option Color) :
    Option Text :=
  if value?.any asksForCurrent then
    if (value?.bind linked?).any identifiers.contains then none else some currentColor
  else color?.map Color.text

/-- What the fill of a shape is to be written as. -/
def Surroundings.fillText? (around : Surroundings) (identifiers : List Text) : Option Text :=
  paintText? (around.find? "fill") identifiers ((around.fill? identifiers).map (·.color))

/-- What the stroke of a shape is to be written as, if it has a width. -/
def Surroundings.strokeText? (around : Surroundings) (identifiers : List Text) (view : View) :
    Option Text :=
  if around.hasWidth view then
    paintText? (around.find? "stroke") identifiers
      ((around.stroke? identifiers view).map (·.color))
  else none

/-- A text with a masking colour turned back. -/
def respelled (mask text : Text) : Text := if text = mask then currentColor else text

/-- A link that is apart from the word has it not in its identifier. -/
theorem apart_of_linked? (apart : LinkApart value) (linked : linked? value = some id) :
    mentionsCurrentColor id = false ∧ '#' ∉ id := by
  obtain ⟨⟨link?, text⟩, parts, rfl⟩ := Option.bind_eq_some_iff.mp linked
  unfold paintParts? at parts
  split at parts
  · next inner found =>
    have apart := apart inner found
    obtain ⟨⟨other, rest⟩, read, same⟩ := Option.map_eq_some_iff.mp parts
    obtain ⟨same, -⟩ := Prod.mk.inj same
    obtain rfl := Option.some.inj same
    rwa [read] at apart
  · cases parts

/-- The same elements are linked. -/
theorem any_linked?_masked (isMask : IsMask mask) (apart : LinkApart value)
    (identifiers : List Text) :
    (linked? value).any (identifiers.map (maskWith mask)).contains =
      (linked? value).any identifiers.contains := by
  cases linked : linked? value with
  | none => rfl
  | some id =>
    obtain ⟨silent, unmarked⟩ := apart_of_linked? apart linked
    rw [Option.any_some, Option.any_some, Bool.eq_iff_iff, List.contains_iff_mem,
      List.contains_iff_mem, List.mem_map]
    simp only [maskWith_eq_iff_of_unmarked isMask silent unmarked, exists_eq_right]

/-- A colour that is written, if there is one. -/
theorem map_spell (mask : Text) (color? : Option Color) :
    color?.map (spell mask) = (color?.map Color.text).map (respelled mask) := by
  cases color? <;> rfl

section

variable {holder' : Surroundings}

/-- The masking colour is written as the word, unless an element is linked. -/
theorem paint?_mask (byte : green < 256)
    (links : (linked? value).any identifiers'.contains = (linked? value).any identifiers.contains) :
    (holder'.paint? identifiers' ⟨linked? value, .color ⟨254, green, 254, 255⟩⟩).map
        (spell (maskColor green)) =
      (if (linked? value).any identifiers.contains then none
        else some currentColor).map (respelled (maskColor green)) := by
  unfold Surroundings.paint?
  simp only [links]
  split
  · rfl
  · have written : Color.text ⟨254, green, 254, 255⟩ = maskColor green :=
      (Color.text_eq_maskColor_iff byte _).mpr ⟨rfl, rfl, rfl⟩
    have different : currentColor ≠ maskColor green :=
      fun same => maskWith_ne_currentColor (isMask_maskColor byte) currentColor (by
        rw [maskWith_of_isCurrentColor isCurrentColor_currentColor, same])
    simp only [Surroundings.color?, Option.map_some, spell, respelled, written, if_pos,
      if_neg different]

/-- Every other value paints as it did. -/
theorem paint?_other {paint : PaintValue} (other : asksForCurrent value = false)
    (parsed : PaintValue.parse? value = some paint)
    (links : (linked? value).any identifiers'.contains = (linked? value).any identifiers.contains)
    (holder holder' : Surroundings) :
    holder'.paint? identifiers' paint = holder.paint? identifiers paint := by
  rw [← link?_of_parse? parsed] at links
  exact paint?_of_ne_surrounding (paint_ne_surrounding other parsed) links holder holder'

end

section

variable (byte : green < 256) (both : Surroundings.Masked (maskColor green) around around')
  (same : identifiers' = identifiers.map (maskWith (maskColor green)))

include byte both same

/-- **The fill of a shape** is written as it is to be, but the masking colour as the word. -/
theorem fill?_masked (apart : ∀ value, around.find? "fill" = some value → LinkApart value) :
    (around'.fill? identifiers').map (fun fill => spell (maskColor green) fill.color) =
      (around.fillText? identifiers).map (respelled (maskColor green)) := by
  have isMask := isMask_maskColor byte
  have found := Surroundings.find?_masked both "fill"
  have target := congrArg (Option.map (spell (maskColor green))) (fill?_color around' identifiers')
  rw [Option.map_map] at target
  refine target.trans ?_
  unfold Surroundings.fillText? paintText?
  rw [fill?_color]
  generalize around.find? "fill" = one at found apart ⊢
  generalize around'.find? "fill" = other at found ⊢
  cases found with
  | none =>
    have black : (PaintValue.parse? "black".toList).getD ⟨none, .color Color.black⟩ =
        ⟨none, .color Color.black⟩ := by decide +kernel
    simp only [Option.getD_none, black, Option.any_none, Bool.false_eq_true, if_false, ← map_spell]
    rfl
  | @some value value' aligned =>
    have apart := apart value rfl
    have links := any_linked?_masked isMask apart identifiers
    rw [← same] at links
    rw [Option.getD_some, Option.getD_some, Option.any_some, Option.bind_some]
    cases asks : asksForCurrent value with
    | true =>
      rw [parse?_of_asks byte aligned apart asks, Option.getD_some, if_pos rfl]
      exact paint?_mask byte links
    | false =>
      rw [parse?_of_other byte aligned apart asks, if_neg Bool.false_ne_true, ← map_spell]
      congr 1
      cases parsed : PaintValue.parse? value with
      | none => rfl
      | some paint => exact paint?_other asks parsed links _ _

/-- **The stroke of a shape** is written as it is to be, but the masking colour as the word. -/
theorem stroke?_masked (view : View)
    (apart : ∀ value, around.find? "stroke" = some value → LinkApart value) :
    (around'.stroke? identifiers' view).map (fun stroke => spell (maskColor green) stroke.color) =
      (around.strokeText? identifiers view).map (respelled (maskColor green)) := by
  have isMask := isMask_maskColor byte
  have found := Surroundings.find?_masked both "stroke"
  have width : around'.hasWidth view = around.hasWidth view := by
    unfold Surroundings.hasWidth
    rw [Surroundings.pixels_masked isMask both]
  have target := congrArg (Option.map (spell (maskColor green)))
    (stroke?_color around' identifiers' view)
  rw [Option.map_map] at target
  refine target.trans ?_
  unfold Surroundings.strokeText? paintText?
  rw [stroke?_color, width]
  split
  · generalize around.find? "stroke" = one at found apart ⊢
    generalize around'.find? "stroke" = other at found ⊢
    cases found with
    | none => rfl
    | @some value value' aligned =>
      have apart := apart value rfl
      have links := any_linked?_masked isMask apart identifiers
      rw [← same] at links
      rw [Option.any_some, Option.bind_some, Option.bind_some, Option.bind_some]
      cases asks : asksForCurrent value with
      | true =>
        rw [parse?_of_asks byte aligned apart asks, Option.bind_some, if_pos rfl]
        exact paint?_mask byte links
      | false =>
        rw [parse?_of_other byte aligned apart asks, if_neg Bool.false_ne_true, ← map_spell]
        congr 1
        cases parsed : PaintValue.parse? value with
        | none => rfl
        | some paint => exact paint?_other asks parsed links _ _
  · rfl

end

/-! ### Shapes and their paths -/

/-- How a shape is written where colours are spelled otherwise: at its outline, each of its paints as
it is to be, spelled otherwise. -/
structure PaintedAs (respelling : Text → Text) (canvas : Canvas) (shape : Shape)
    (painted : PaintedPath) : Prop where
  outline : shape.outline? canvas = some painted.outline
  fill : painted.fill.map (fun fill => respelling fill.color.text) =
    (shape.all.fillText? canvas.identifiers).map respelling
  stroke : painted.stroke.map (fun stroke => respelling stroke.color.text) =
    (shape.all.strokeText? canvas.identifiers canvas.view).map respelling

/-- The shapes of a root element that have an outline. -/
def drawnShapes (written : List Xml.Attribute) (inside : Xml.Forest) : List Shape :=
  (shapesOf written inside).filter fun shape => (shape.outline? (canvasOf written inside)).isSome

/-- **A picture draws a root element**: it has one path for each of its shapes that has an outline,
in this order, and each is painted as its shape says. -/
def Draws (respelling : Text → Text) (written : List Xml.Attribute) (inside : Xml.Forest)
    (picture : Picture) : Prop :=
  List.Forall₂ (PaintedAs respelling (canvasOf written inside)) (drawnShapes written inside)
    picture.drawing.paths

/-- The links of a shape are apart from the word. -/
def Shape.LinksApart (shape : Shape) : Prop :=
  ∀ value, shape.all.find? "fill" = some value ∨ shape.all.find? "stroke" = some value →
    LinkApart value

/-- **A root element in which the word can be told apart**: it stands alone in every style, and no
link of a shape holds it. -/
structure WordApart (written : List Xml.Attribute) (inside : Xml.Forest) : Prop where
  style : StandsAlone (styleOf written)
  styles : StylesAlone inside
  links : ∀ shape ∈ shapesOf written inside, shape.LinksApart

/-- Whether a root element has neither styles nor links. -/
def isSimple (written : List Xml.Attribute) (inside : Xml.Forest) : Bool :=
  (styleOf written).isEmpty && isUnstyled inside && (shapesOf written inside).all fun shape =>
    ["fill", "stroke"].all fun name => (shape.all.find? name).all fun value =>
      (Text.after? "url(".toList (Text.trim value)).isNone

/-- Whether a forest starts with such a root element. -/
def startsSimple : Xml.Forest → Bool
  | .empty => false
  | .aside _ => false
  | .element _ written inside _ => isSimple written inside

/-- Without styles and links the word can be told apart. -/
theorem wordApart_of_isSimple {written : List Xml.Attribute} {inside : Xml.Forest}
    (simple : isSimple written inside = true) : WordApart written inside := by
  simp only [isSimple, Bool.and_eq_true, List.isEmpty_iff, List.all_eq_true] at simple
  obtain ⟨⟨style, unstyled⟩, unlinked⟩ := simple
  refine ⟨style ▸ standsAlone_nil, stylesAlone_of_unstyled unstyled, ?_⟩
  rintro shape member value (given | given)
  · have link := unlinked shape member "fill" (by simp)
    rw [given, Option.all_some, Option.isNone_iff_eq_none] at link
    exact linkApart_of_unlinked link
  · have link := unlinked shape member "stroke" (by simp)
    rw [given, Option.all_some, Option.isNone_iff_eq_none] at link
    exact linkApart_of_unlinked link

/-- The paths of shapes, by pairs of a shape and what it is drawn as. -/
theorem forall₂_painted {R : Shape → Shape → Prop} {respelling : Text → Text}
    {canvas canvas' : Canvas} {shapes shapes' : List Shape} (both : List.Forall₂ R shapes shapes')
    (outline : ∀ shape shape', R shape shape' → shape'.outline? canvas' = shape.outline? canvas)
    (paints : ∀ shape ∈ shapes, ∀ shape', R shape shape' → ∀ outline,
      shape.outline? canvas = some outline → PaintedAs respelling canvas shape
        (paintedPath canvas' shape'.all (ownId shape'.own) outline)) :
    List.Forall₂ (PaintedAs respelling canvas)
      (shapes.filter fun shape => (shape.outline? canvas).isSome)
      (shapes'.filterMap (·.painted? canvas')) := by
  induction both with
  | nil => exact .nil
  | @cons shape shape' _ _ first _ ih =>
    obtain ⟨paint, paints⟩ := List.forall_mem_cons.mp paints
    have others := ih paints
    rw [List.filter_cons, List.filterMap_cons, Shape.painted?, outline shape shape' first]
    cases found : shape.outline? canvas with
    | none => exact others
    | some outline => exact .cons (paint shape' first outline found) others

variable {written : List Xml.Attribute} {inside : Xml.Forest} {picture : Picture}

section

variable (byte : green < 256) (apart : WordApart written inside)

include byte apart

/-- **The picture of a masked document** draws the document, with the masking colour for the word. -/
theorem draws_masked (shown : Picture.ofRoot? (written.map (·.masked (maskColor green)))
      (inside.masked (maskColor green)) = some picture) :
    Draws (respelled (maskColor green)) written inside picture := by
  have isHashed := isHashed_maskColor byte
  have canvases := canvasOf_masked isHashed apart.style apart.styles
  unfold Draws
  rw [Picture.paths_of_root shown]
  refine forall₂_painted (shapesOf_masked isHashed apart.style apart.styles)
    (fun shape shape' both => Shape.outline?_masked isHashed.toIsMask canvases both)
    fun shape member shape' both outline found => ⟨found, ?_, ?_⟩
  · exact fill?_masked byte (.cons both.own both.around) canvases.identifiers
      fun value given => apart.links shape member value (Or.inl given)
  · show Option.map _ (Surroundings.stroke? _ _ _) = _
    rw [canvases.view]
    exact stroke?_masked byte (.cons both.own both.around) canvases.identifiers _
      fun value given => apart.links shape member value (Or.inr given)

end

/-- A value that masking leaves alone does not ask for the surrounding colour. -/
theorem asksForCurrent_of_same (isMask : IsMask mask) (aligned : Aligned mask value value)
    (apart : LinkApart value) : asksForCurrent value = false := by
  have parts := paintParts?_masked isMask aligned apart
  unfold asksForCurrent
  cases found : paintParts? value with
  | none => rfl
  | some both =>
    rw [found, Option.map_some, Option.some_inj] at parts
    have same : both.2 = maskWith mask both.2 := congrArg Prod.snd parts
    rw [Option.any_some, ← Bool.not_eq_true]
    intro named
    obtain ⟨digits, shape, -⟩ := isMask.shape
    rw [maskWith_of_isCurrentColor named, shape] at same
    have kind := (isSolid_of_isCurrentColor named).solid '#' (by rw [same]; exact List.mem_cons_self)
    exact absurd kind (by decide)

/-- A paint that does not ask for the surrounding colour is to be written as its own colour. -/
theorem paintText?_of_other {value? : Option Text}
    (other : ∀ value, value? = some value → asksForCurrent value = false)
    (identifiers : List Text) (color? : Option Color) :
    paintText? value? identifiers color? = color?.map Color.text := by
  unfold paintText?
  cases value? with
  | none => rfl
  | some value => rw [Option.any_some, other value rfl, if_neg Bool.false_ne_true]

/-- **The paints of a shape that does not ask for the surrounding colour** are its own. -/
theorem paintedAs_self {canvas : Canvas} {shape : Shape} {outline : Outline}
    (found : shape.outline? canvas = some outline)
    (fill : ∀ value, shape.all.find? "fill" = some value → asksForCurrent value = false)
    (stroke : ∀ value, shape.all.find? "stroke" = some value → asksForCurrent value = false) :
    PaintedAs (fun text => text) canvas shape
      (paintedPath canvas shape.all (ownId shape.own) outline) := by
  refine ⟨found, ?_, ?_⟩
  · rw [Surroundings.fillText?, paintText?_of_other fill, Option.map_map, Option.map_map]
    rfl
  · rw [Surroundings.strokeText?, paintText?_of_other stroke]
    split
    · rw [Option.map_map, Option.map_map]
      rfl
    · next narrow =>
      have colour := stroke?_color shape.all canvas.identifiers canvas.view
      rw [if_neg narrow, Option.map_eq_none_iff] at colour
      show Option.map _ (shape.all.stroke? _ _) = none
      rw [colour, Option.map_none]

/-- **The picture of a document that masking leaves alone** draws the document. -/
theorem draws_silent (byte : green < 256) (apart : WordApart written inside)
    (shown : Picture.ofRoot? written inside = some picture)
    (same : written.map (·.masked (maskColor green)) = written)
    (same' : inside.masked (maskColor green) = inside) :
    Draws (fun text => text) written inside picture := by
  have isHashed := isHashed_maskColor byte
  have both := shapesOf_masked isHashed apart.style apart.styles
  rw [same, same'] at both
  have other (shape : Shape) (member : shape ∈ shapesOf written inside) (name : String)
      (value : Text) (link : LinkApart value) (found : shape.all.find? name = some value) :
      asksForCurrent value = false := by
    have alone := List.forall₂_same.mp both shape member
    have values := Surroundings.find?_masked (.cons alone.own alone.around) name
    rw [show Surroundings.find? (shape.own :: shape.around) name = some value from found] at values
    cases values with
    | some aligned => exact asksForCurrent_of_same isHashed.toIsMask aligned link
  unfold Draws
  rw [Picture.paths_of_root shown]
  refine forall₂_painted (List.forall₂_same.mpr fun shape _ => rfl : List.Forall₂ Eq _ _)
    (fun shape shape' same => by rw [same]) fun shape member shape' same outline found => ?_
  subst same
  have links := apart.links shape member
  exact paintedAs_self found
    (fun value given => other shape member "fill" value (links value (Or.inl given)) given)
    fun value given => other shape member "stroke" value (links value (Or.inr given)) given

end IconComponents.Svg
