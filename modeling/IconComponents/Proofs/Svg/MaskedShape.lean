/-
**The shapes of a masked document.**

What a drawing needs apart from colours are numbers, and masking changes none. So the shapes of a
masked document have the outlines of the shapes of the document, on the same canvas; only the
identifiers of elements are masked.

* `outlineOf?_masked`, `Shape.outline?_masked` — the outline of a shape;
* `canvasOf_masked` — the canvas of a document;
* `shapesOf_masked` — its shapes.
-/

import IconComponents.Proofs.Svg.MaskedAttributes
import IconComponents.Proofs.Svg.MaskedNumber

namespace IconComponents.Svg

variable {mask : Text} {own own' : Attributes} {around around' : Surroundings}
  {written : List Xml.Attribute} {inside : Xml.Forest} {shape shape' : Shape} {canvas canvas' : Canvas}

/-! ### Numbers of attributes -/

/-- What is read of a value is read of the masked value. -/
theorem bind_masked {α : Type} {read : Text → Option α}
    (same : ∀ {text masked}, Aligned mask text masked → read masked = read text)
    {found found' : Option Text} (both : Option.Rel (Aligned mask) found found') :
    found'.bind read = found.bind read := by
  cases both with
  | none => rfl
  | some both => exact same both

section

variable (isMask : IsMask mask) (both : Attributes.Masked mask own own')

include isMask both

/-- Lengths are the same when masked. -/
theorem Attributes.pixels_masked (name : String) (base : Single) :
    own'.pixels name base = own.pixels name base := by
  unfold pixels
  rw [bind_masked (Length.parse?_masked isMask) (find?_masked both name)]

/-- **The outline of a shape** is the same in a masked document. -/
theorem outlineOf?_masked (view : View) (name : Text) :
    outlineOf? view name own' = outlineOf? view name own := by
  unfold outlineOf?
  simp only [Attributes.pixels_masked isMask both,
    bind_masked (Outline.ofPath?_masked isMask) (Attributes.find?_masked both "d"),
    bind_masked (fun aligned => Outline.ofPoints?_masked isMask aligned false)
      (Attributes.find?_masked both "points"),
    bind_masked (fun aligned => Outline.ofPoints?_masked isMask aligned true)
      (Attributes.find?_masked both "points")]

/-- A side of a picture is the same in a masked document. -/
theorem Picture.side_masked (name : String) : side own' name = side own name := by
  unfold side
  rw [bind_masked (Length.parse?_masked isMask) (Attributes.find?_masked both name)]

/-- View boxes are the same when masked. -/
theorem Picture.view?_masked : view? own' = view? own :=
  bind_masked (View.parse?_masked isMask) (Attributes.find?_masked both "viewBox")

theorem Picture.givenSide_masked (name : String) (viewed : View → Single) :
    givenSide own' name viewed = givenSide own name viewed := by
  unfold givenSide
  rw [view?_masked isMask both, side_masked isMask both]

end

theorem Surroundings.pixels_masked (isMask : IsMask mask)
    (both : Surroundings.Masked mask around around') (base : Single) (name : String)
    (default : Single) : around'.pixels base name default = around.pixels base name default := by
  unfold pixels
  rw [bind_masked (Length.parse?_masked isMask) (find?_masked both name)]

/-! ### Canvases -/

/-- Two canvases that differ only in the identifiers of elements, which are masked in the second
one. -/
structure Canvas.Masked (mask : Text) (canvas canvas' : Canvas) : Prop where
  view : canvas'.view = canvas.view
  placement : canvas'.placement = canvas.placement
  identifiers : canvas'.identifiers = canvas.identifiers.map (maskWith mask)

/-- A masked shape has the outline of the shape. -/
theorem Shape.outline?_masked (isMask : IsMask mask) (canvases : Canvas.Masked mask canvas canvas')
    (both : Shape.Masked mask shape shape') : shape'.outline? canvas' = shape.outline? canvas := by
  have holds : canvas'.holds = canvas.holds := by
    funext outline
    unfold Canvas.holds
    rw [canvases.placement]
  rw [outline?, outline?, canvases.view, ← both.name, outlineOf?_masked isMask both.own, holds]

section

variable (isHashed : IsHashed mask) (style : StandsAlone (styleOf written))
  (alone : StylesAlone inside)

include isHashed style alone

/-- **The canvas of a masked document** is that of the document. -/
theorem canvasOf_masked : Canvas.Masked mask (canvasOf written inside)
    (canvasOf (written.map (·.masked mask)) (inside.masked mask)) := by
  have isMask := isHashed.toIsMask
  have root : Surroundings.Masked mask [] [] := .nil
  have both := Attributes.own_masked isHashed root style
  have sides (name : String) (viewed : View → Single) :=
    Picture.givenSide_masked isMask both name viewed
  unfold canvasOf Picture.canvas
  simp only
  rw [sides, sides, Picture.view?_masked isMask both]
  refine ⟨rfl, rfl, ?_⟩
  have id := Attributes.find?_masked both "id"
  simp only [identifiersOf_masked isHashed alone (.cons both .nil), List.map_append]
  congr 1
  generalize (Attributes.own [] written).find? "id" = one at id ⊢
  generalize (Attributes.own [] (written.map (·.masked mask))).find? "id" = other at id ⊢
  cases id with
  | none => rfl
  | some id => rw [id.same]; rfl

/-- **A masked document shows the shapes of the document**, with their values masked. -/
theorem shapesOf_masked : List.Forall₂ (Shape.Masked mask) (shapesOf written inside)
    (shapesOf (written.map (·.masked mask)) (inside.masked mask)) := by
  have root : Surroundings.Masked mask [] [] := .nil
  have both := Attributes.own_masked isHashed root style
  unfold shapesOf
  simp only
  rw [isHidden_masked isHashed.toIsMask both]
  split
  · exact .nil
  · exact shapesIn_masked isHashed alone (.cons both .nil)

end

end IconComponents.Svg
