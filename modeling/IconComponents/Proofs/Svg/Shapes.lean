/-
**The shapes of a document.**

The paths of a picture are the shapes of the document that it was drawn from, in the order of the
document: one for each shape that has an outline, painted as the attributes of the shape and of the
elements around it say.

* `Shape`, `shapesOf` — the shapes of a document, with the attributes that count for them;
* `Drawing.paths_ofElements`, `Picture.paths_of_root` — the paths that are drawn of shapes;
* `Picture.drawnFrom` — a picture is drawn from its document, no shape more and none less;
* `fill_of_mask`, `stroke_of_mask` — a value that is a masking colour paints with that colour.
-/

import IconComponents.Markup.CurrentColor
import IconComponents.Minify
import IconComponents.Proofs.Svg.MaskedPaint
import IconComponents.Proofs.Svg.Spelling

namespace IconComponents.Svg

variable {canvas : Canvas} {around shape : Surroundings} {forest : Xml.Forest} {source value : Text}
  {painted : PaintedPath} {picture : Picture} {green : Nat} {drawing other : Drawing}

/-! ### Paths of drawings -/

/-- The paths of a drawing. -/
def Drawing.paths : Drawing → List PaintedPath
  | empty => []
  | group _ _ _ inside behind => inside.paths ++ behind.paths
  | path painted behind => painted :: behind.paths

theorem Drawing.paths_append (drawing other : Drawing) :
    (drawing.append other).paths = drawing.paths ++ other.paths := by
  induction drawing with
  | empty => rfl
  | group id opacity placement inside behind _ ih =>
    rw [append, paths, paths, ih, List.append_assoc]
  | path painted behind ih => rw [append, paths, paths, ih, List.cons_append]

theorem Drawing.paths_withOpacity (opacity : Single) (drawing : Drawing) :
    (drawing.withOpacity opacity).paths = drawing.paths := by
  unfold withOpacity
  split
  · rfl
  · exact List.append_nil _

/-! ### Shapes of documents -/

/-- A shape of a document: the name of its element, its own attributes, and those of the elements
around it. -/
structure Shape where
  name : Text
  own : Attributes
  around : Surroundings

namespace Shape

/-- All attributes that count for a shape, the nearest first. -/
def all (shape : Shape) : Surroundings := shape.own :: shape.around

/-- The outline of a shape, if it has one that a canvas holds. -/
def outline? (canvas : Canvas) (shape : Shape) : Option Outline :=
  (outlineOf? canvas.view shape.name shape.own).filter canvas.holds

/-- A shape as it is painted, if it has an outline. -/
def painted? (canvas : Canvas) (shape : Shape) : Option PaintedPath :=
  (shape.outline? canvas).map (paintedPath canvas shape.all (ownId shape.own))

end Shape

/-- The shapes of elements inside given surroundings. Groups are looked into; what is hidden or not
of the drawing is not. -/
def shapesIn : Surroundings → Xml.Forest → List Shape
  | _, .empty => []
  | around, .aside behind => shapesIn around behind
  | around, .element name written inside behind =>
    let own := Attributes.own around written
    let others := shapesIn around behind
    if !isOurs name || isHidden own then others
    else if groupNames.contains name.name then shapesIn (own :: around) inside ++ others
    else if shapeNames.contains name.name then ⟨name.name, own, around⟩ :: others
    else others

/-- A shape is drawn as its path, if it has an outline. -/
theorem Drawing.paths_ofShape (canvas : Canvas) (shape : Shape) :
    (ofShape canvas shape.all shape.name shape.own).paths = (shape.painted? canvas).toList := by
  unfold ofShape
  rw [paths_withOpacity, Shape.painted?, Shape.outline?]
  cases outlineOf? canvas.view shape.name shape.own with
  | none => rfl
  | some outline =>
    simp only [Option.filter_some]
    split <;> rfl

/-- **The paths of a drawing are its shapes**, each as it is painted. -/
theorem Drawing.paths_ofElements (canvas : Canvas) (around : Surroundings) (forest : Xml.Forest) :
    (ofElements canvas around forest).paths =
      (shapesIn around forest).filterMap (·.painted? canvas) := by
  induction forest generalizing around with
  | empty => rfl
  | aside behind ih => exact ih around
  | element name written inside behind inner outer =>
    unfold ofElements shapesIn
    simp only
    split
    · exact outer around
    split
    · rw [paths, inner, outer, List.filterMap_append]
    split
    · have first := paths_ofShape canvas ⟨name.name, Attributes.own around written, around⟩
      rw [paths_append, outer, List.filterMap_cons]
      refine (congrArg (· ++ _) first).trans ?_
      cases Shape.painted? canvas ⟨name.name, Attributes.own around written, around⟩ <;> rfl
    · exact outer around

/-! ### Pictures -/

/-- The shapes of a root element; a hidden one shows none. -/
def shapesOf (written : List Xml.Attribute) (inside : Xml.Forest) : List Shape :=
  let own := Attributes.own [] written
  if isHidden own then [] else shapesIn [own] inside

/-- The canvas that the shapes of a root element are painted on. -/
def canvasOf (written : List Xml.Attribute) (inside : Xml.Forest) : Canvas :=
  Picture.canvas (Attributes.own [] written) inside

/-- **The paths of a picture are the shapes of its root element.** -/
theorem Picture.paths_of_root {written : List Xml.Attribute} {inside : Xml.Forest}
    (shown : Picture.ofRoot? written inside = some picture) :
    picture.drawing.paths =
      (shapesOf written inside).filterMap (·.painted? (canvasOf written inside)) := by
  have placed (placement : Placement) (drawn : Drawing) :
      (if placement.isIdentity then drawn
        else Drawing.group [] opaqueValue (some placement) drawn .empty).paths = drawn.paths := by
    split
    · rfl
    · exact List.append_nil _
  have drawn (opacity : Single) (canvas : Canvas) (own : Attributes) :
      ((Drawing.ofElements canvas [own] inside).withOpacity opacity).paths =
        (shapesIn [own] inside).filterMap (·.painted? canvas) :=
    (Drawing.paths_withOpacity _ _).trans (Drawing.paths_ofElements canvas [own] inside)
  unfold Picture.ofRoot? at shown
  unfold shapesOf canvasOf
  simp only at shown ⊢
  split at shown
  · cases shown
  · split at shown
    · next hidden =>
      cases shown
      rw [if_pos hidden]
      rfl
    · next seen =>
      rw [if_neg seen]
      split at shown <;> cases shown <;> exact (placed _ _).trans (drawn _ _ _)

/-- A picture that a document shows is the picture of its root. -/
theorem Picture.exists_root (shown : Picture.ofDocument source = .ok picture) :
    ∃ name written inside behind, Xml.read source = .ok (.element name written inside behind) ∧
      Picture.ofRoot? written inside = some picture := by
  unfold Picture.ofDocument at shown
  split at shown
  · cases shown
  · next forest read =>
    split at shown
    · cases shown
    · split at shown
      · split at shown
        · split at shown
          · next found =>
            cases shown
            exact ⟨_, _, _, _, read, found⟩
          · cases shown
        · cases shown
      · cases shown

/-- **A picture is drawn from a document**: its paths are the shapes of the root element, in this
order, each as it is painted, if it has an outline. -/
def DrawnFrom (source : Text) (picture : Picture) : Prop :=
  ∃ name written inside behind, Xml.read source = .ok (.element name written inside behind) ∧
    picture.drawing.paths =
      (shapesOf written inside).filterMap (·.painted? (canvasOf written inside))

/-- **A picture is drawn from its document.** -/
theorem Picture.drawnFrom (shown : Picture.ofDocument source = .ok picture) :
    DrawnFrom source picture := by
  obtain ⟨name, written, inside, behind, read, root⟩ := exists_root shown
  exact ⟨name, written, inside, behind, read, paths_of_root root⟩

/-! ### Values -/

theorem eq_of_digitChar_eq {m n : Nat} (small : n < 16)
    (same : Nat.digitChar m = Nat.digitChar n) : m = n := by
  have different : ∀ m < 16, ∀ n < 16, Nat.digitChar m = Nat.digitChar n → m = n := by decide
  have digit : ∀ n < 16, Nat.digitChar n ≠ '*' := by decide
  by_cases small' : m < 16
  · exact different m small' n small same
  · rw [digitChar_of_le (Nat.le_of_not_lt small')] at same
    exact absurd same.symm (digit n small)

theorem byteText_inj {m n : Nat} (byte : n < 256) (same : Color.byteText m = Color.byteText n) :
    m = n := by
  obtain ⟨high, rest⟩ := List.cons.inj same
  obtain ⟨low, -⟩ := List.cons.inj rest
  have high := eq_of_digitChar_eq (by omega) high
  have low := eq_of_digitChar_eq (by omega) low
  omega

/-- **The masking colour is the colour with these parts**, whatever it is called. -/
theorem Color.text_eq_maskColor_iff (byte : green < 256) (color : Color) :
    color.text = maskColor green ↔ color.red = 254 ∧ color.green = green ∧ color.blue = 254 := by
  have spelled : maskColor green =
      '#' :: byteText 254 ++ byteText green ++ byteText 254 := rfl
  constructor
  · intro same
    rw [spelled, Color.text, List.cons_append, List.cons_append, List.cons_append,
      List.cons_append] at same
    obtain ⟨front, last⟩ := List.append_inj' (List.cons.inj same).2 rfl
    obtain ⟨first, middle⟩ := List.append_inj' front rfl
    exact ⟨byteText_inj (by decide) first, byteText_inj byte middle,
      byteText_inj (by decide) last⟩
  · rintro ⟨red, rfl, blue⟩
    rw [spelled, Color.text, red, blue]

/-- The colour of a value that is the masking colour. -/
theorem paint?_of_mask (around : Surroundings) (identifiers : List Text) :
    around.paint? identifiers ⟨none, .color ⟨254, green, 254, 255⟩⟩ =
      some ⟨254, green, 254, 255⟩ := rfl

/-- **A fill that is the masking colour** fills with this colour. -/
theorem fill_of_mask (byte : green < 256) (identifiers : List Text)
    (given : shape.find? "fill" = some value) (named : Text.trim value = maskColor green) :
    ∃ fill, shape.fill? identifiers = some fill ∧ fill.color.text = maskColor green := by
  refine ⟨⟨⟨254, green, 254, 255⟩, shape.opacityOf "fill-opacity" ⟨254, green, 254, 255⟩,
    shape.find? "fill-rule" == some "evenodd".toList⟩, ?_, ?_⟩
  · unfold Surroundings.fill?
    simp only [given, Option.getD_some, PaintValue.parse?_maskColor byte named, paint?_of_mask,
      Option.bind_eq_bind, Option.bind_some]
  · exact (Color.text_eq_maskColor_iff byte _).mpr ⟨rfl, rfl, rfl⟩

/-- **A stroke that is the masking colour** draws with this colour, if it draws at all. -/
theorem stroke_of_mask {identifiers : List Text} {view : View} {stroke : Stroke}
    (byte : green < 256) (given : shape.find? "stroke" = some value)
    (named : Text.trim value = maskColor green)
    (drawn : shape.stroke? identifiers view = some stroke) :
    stroke.color.text = maskColor green := by
  unfold Surroundings.stroke? at drawn
  simp only [given, PaintValue.parse?_maskColor byte named, paint?_of_mask, Option.bind_eq_bind,
    Option.bind_some] at drawn
  split at drawn
  · cases drawn
    exact (Color.text_eq_maskColor_iff byte _).mpr ⟨rfl, rfl, rfl⟩
  · cases drawn

end IconComponents.Svg
