/-
**Colours survive minification**, as far as the masking colour is the colour of no paint.

A text that mentions `currentColor` is drawn with a masking colour instead, which stands in the
masked text exactly where the word stood. A paint that is this colour is written as `currentColor`,
and every other paint as its own colour. The masking colour is no part of the text; a paint can have
it all the same, spelled otherwise, and it is then written as `currentColor`, too.

* `StandsFor` — a text with a masking colour in place of `currentColor`;
* `ShowsMask` — paints that are the masking colour;
* `IsMasked`, `IsPlain` — what is written of a masked document, and of one that is not masked;
* `Icon.minify_colors` — how every icon is written;
* `line_loses_color` — a paint that is written as another one.
-/

import IconComponents.Minify
import IconComponents.Proofs.Svg.MaskedDrawing

namespace IconComponents

open Svg

variable {source masked common path : Text} {green : Nat} {picture : Picture} {icon : Icon}

/-- A text in which a colour that is not used stands exactly where `currentColor` is in another:
where the colour is, the word was, and what stands by itself is the colour exactly if it was the
word. -/
structure StandsFor (source masked : Text) (green : Nat) : Prop where
  byte : green < 256
  unused : ¬ maskColor green <:+: Text.lower source
  back : unmask (maskColor green) masked = maskWith currentColor source
  word : ∀ before' after', masked = before' ++ maskColor green ++ after' →
    ∃ before word after, source = before ++ word ++ after ∧ isCurrentColor word = true ∧
      maskWith (maskColor green) before = before' ∧ maskWith (maskColor green) after = after'
  value : ∀ before left value right after, Char.isWord left = false → Char.isWord right = false →
    source = before ++ left :: value ++ right :: after →
    masked = maskWith (maskColor green) before ++ left :: maskWith (maskColor green) value ++
      right :: maskWith (maskColor green) after ∧
    (maskWith (maskColor green) value = maskColor green ↔ isCurrentColor value = true)

/-- A masked text has the colour where the word was. -/
theorem standsFor_of_masks (byte : green < 256) (masks : Masks source masked (maskColor green)) :
    StandsFor source masked green := by
  have isMask := isMask_maskColor byte
  obtain rfl := masks.masked
  refine ⟨byte, masks.unused, unmask_maskWith isMask masks.not_infix, ?_, ?_⟩
  · intro before' after' split
    exact exists_word_of_mask isMask masks.not_infix split
  · rintro before left value right after apart apart' rfl
    refine ⟨?_, maskWith_eq_mask_iff isMask fun within => masks.not_infix ?_⟩
    · rw [List.append_assoc, List.cons_append, maskWith_append_cons apart,
        maskWith_append_cons apart', List.append_assoc, List.cons_append]
    · refine within.trans ?_
      exact ⟨before ++ [left], right :: after, by simp⟩

/-! ### Paints -/

/-- A colour is spelled as `currentColor` exactly if it is the masking colour. -/
theorem spell_eq_currentColor_iff (byte : green < 256) (color : Color) :
    spell (maskColor green) color = currentColor ↔
      color.red = 254 ∧ color.green = green ∧ color.blue = 254 := by
  rw [← Color.text_eq_maskColor_iff byte]
  unfold spell
  split
  · next same => exact ⟨fun _ => same, fun _ => rfl⟩
  · next other =>
    refine ⟨fun same => ?_, fun same => absurd same other⟩
    obtain ⟨digits, shape, -⟩ := color.text_shape
    have first := congrArg List.head? same
    rw [shape, List.head?_cons] at first
    exact absurd first (by decide)

/-! ### Icons -/

/-- A fill or a stroke of a shape that is the masking colour is written as the word. -/
structure ShowsMask (green : Nat) (shape : Surroundings) (identifiers : List Text) (view : View) :
    Prop where
  fill : ∀ value, shape.find? "fill" = some value → Text.trim value = maskColor green →
    ∃ fill, shape.fill? identifiers = some fill ∧ spell (maskColor green) fill.color = currentColor
  stroke : ∀ value, shape.find? "stroke" = some value → Text.trim value = maskColor green →
    ∀ stroke, shape.stroke? identifiers view = some stroke →
      spell (maskColor green) stroke.color = currentColor

/-- Paints that are named by the masking colour are written as the word. -/
theorem showsMask (byte : green < 256) (shape : Surroundings) (identifiers : List Text)
    (view : View) : ShowsMask green shape identifiers view := by
  refine ⟨fun value given named => ?_, fun value given named stroke drawn => ?_⟩
  · obtain ⟨fill, filled, same⟩ := fill_of_mask byte identifiers given named
    exact ⟨fill, filled, if_pos same⟩
  · exact if_pos (stroke_of_mask byte given named drawn)

/-- **An icon of a text that mentions `currentColor`**: a colour stands for the word while the icon
is drawn, and the paints of this colour, and no others, are written as the word.

The picture has one path for each shape of the masked text that has an outline. The shapes of the
text itself are these, with their outlines and their own paints, if no reference of the text stands
for a part of a word, and the word can be told apart in it: a path is then written with
`currentColor` where its shape asks for it, in any letter case, or where it has the masking colour,
and with the colour of its shape otherwise. -/
structure IsMasked (source masked common : Text) (green : Nat) (picture : Picture) (icon : Icon) :
    Prop where
  mentions : mentionsCurrentColor source = true
  standsFor : StandsFor source masked green
  shown : Picture.ofDocument masked = .ok picture
  markup : icon.markup = ensureViewBox
    (picture.spelled (spell (maskColor green)) fun id => unmask (maskColor green) (idText common id))
    picture.width picture.height
  spelled : ∀ color, spell (maskColor green) color = currentColor ↔
    color.red = 254 ∧ color.green = green ∧ color.blue = 254
  other : ∀ color, spell (maskColor green) color ≠ currentColor →
    spell (maskColor green) color = color.text
  masks : ∀ shape identifiers view, ShowsMask green shape identifiers view
  paths : DrawnFrom masked picture
  tree : Xml.RefersApart source → ∃ name written inside behind,
    Xml.read source = .ok (.element name written inside behind) ∧
    Xml.read masked = .ok ((Xml.Forest.element name written inside behind).masked
      (maskColor green)) ∧
    (WordApart written inside → Draws (respelled (maskColor green)) written inside picture)

/-- **An icon of a text that does not mention `currentColor`**, or that uses all masking colours: all
paints are written as their own colours.

The picture has one path for each shape of the text that has an outline. No shape asks for
`currentColor` if the text does not mention it, no reference of it stands for a part of a word, and
the word can be told apart. -/
structure IsPlain (source common : Text) (picture : Picture) (icon : Icon) : Prop where
  unmasked : mentionsCurrentColor source = false ∨
    ∀ green < 256, Text.contains (Text.lower source) (maskColor green) = true
  shown : Picture.ofDocument source = .ok picture
  markup : icon.markup =
    ensureViewBox (picture.spelled Color.text (idText common)) picture.width picture.height
  paths : DrawnFrom source picture
  tree : mentionsCurrentColor source = false → Xml.RefersApart source → ∃ name written inside behind,
    Xml.read source = .ok (.element name written inside behind) ∧
    (WordApart written inside → Draws (fun text => text) written inside picture)

/-- The root element of a masked text is the masked root element of the text. -/
theorem exists_root_of_masked (byte : green < 256) (refers : Xml.RefersApart source)
    (shown : Picture.ofDocument (maskWith (maskColor green) source) = .ok picture) :
    ∃ name written inside behind, Xml.read source = .ok (.element name written inside behind) ∧
      Xml.read (maskWith (maskColor green) source) =
        .ok ((Xml.Forest.element name written inside behind).masked (maskColor green)) ∧
      Picture.ofRoot? (written.map (·.masked (maskColor green)))
        (inside.masked (maskColor green)) = some picture := by
  obtain ⟨name', written', inside', behind', read', root⟩ := Picture.exists_root shown
  obtain ⟨forest, read, same⟩ := Xml.read_masked (isMask_maskColor byte) refers read'
  cases forest with
  | empty => cases same
  | aside => cases same
  | element name written inside behind =>
    rw [same] at read'
    obtain ⟨rfl, rfl, rfl, rfl⟩ := Xml.Forest.element.inj same
    exact ⟨name, written, inside, behind, read, read', root⟩

/-- A text that does not mention the word draws its own shapes. -/
theorem exists_root_of_silent (silent : mentionsCurrentColor source = false)
    (refers : Xml.RefersApart source) (shown : Picture.ofDocument source = .ok picture) :
    ∃ name written inside behind, Xml.read source = .ok (.element name written inside behind) ∧
      (WordApart written inside → Draws (fun text => text) written inside picture) := by
  have byte : 0 < 256 := by decide
  have same : maskWith (maskColor 0) source = source := maskWith_of_silent silent
  rw [← same] at shown
  obtain ⟨name, written, inside, behind, read, read', root⟩ :=
    exists_root_of_masked byte refers shown
  rw [same, read] at read'
  obtain ⟨-, written', inside', -⟩ := Xml.Forest.element.inj (Except.ok.inj read')
  refine ⟨name, written, inside, behind, read, fun apart => ?_⟩
  rw [← written', ← inside'] at root
  exact draws_silent byte apart root written'.symm inside'.symm

/-- The icon of a text, by the picture that the text shows once its colour is masked. -/
theorem Icon.minify_text (source path common : Text) :
    Icon.minify (.text source) path common =
      match mask? source with
      | some (masked, mask) => (Picture.ofDocument masked).map fun picture =>
        .ofDrawn (.ofPicture picture) path common (unmask mask)
      | none => (Picture.ofDocument source).map fun picture =>
        .ofDrawn (.ofPicture picture) path common id := by
  rw [Icon.minify, Engines.minify, Content.text?, Option.bind_some]
  cases mask? source with
  | none =>
    show (Except.map _ (Picture.ofDocument source) >>= _) = _
    cases Picture.ofDocument source <;> rfl
  | some both =>
    obtain ⟨masked, mask⟩ := both
    show (Except.map _ (Picture.ofDocument masked) >>= _) = _
    simp only
    cases Picture.ofDocument masked <;> rfl

/-- **How the paints of an icon are written.** -/
theorem Icon.minify_colors (accepted : Icon.minify (.text source) path common = .ok icon) :
    (∃ masked green picture, IsMasked source masked common green picture icon) ∨
      ∃ picture, IsPlain source common picture icon := by
  rw [Icon.minify_text] at accepted
  split at accepted
  · next masked mask masks =>
    have masks := mask?_eq_some masks
    obtain ⟨green, byte, rfl⟩ := masks.color
    cases shown : Picture.ofDocument masked with
    | error error => rw [shown] at accepted; cases accepted
    | ok picture =>
      rw [shown] at accepted
      cases accepted
      refine Or.inl ⟨masked, green, picture, masks.mentions, standsFor_of_masks byte masks, shown,
        ?_, spell_eq_currentColor_iff byte, ?_, showsMask byte, Picture.drawnFrom shown, ?_⟩
      · exact congrArg (ensureViewBox · picture.width picture.height)
          (picture.unmask_text byte common)
      · intro color other
        unfold spell at other ⊢
        split at other
        · exact absurd rfl other
        · next different => exact if_neg different
      · obtain rfl := masks.masked
        intro refers
        obtain ⟨name, written, inside, behind, read, read', root⟩ :=
          exists_root_of_masked byte refers shown
        exact ⟨name, written, inside, behind, read, read', fun apart =>
          draws_masked byte apart root⟩
  · next none =>
    cases shown : Picture.ofDocument source with
    | error error => rw [shown] at accepted; cases accepted
    | ok picture =>
      rw [shown] at accepted
      cases accepted
      refine Or.inr ⟨picture, mask?_eq_none none, shown, ?_, Picture.drawnFrom shown,
        fun silent refers => exists_root_of_silent silent refers shown⟩
      exact congrArg (ensureViewBox · picture.width picture.height)
        (picture.text_eq_spelled common)

/-! ### Two paints -/

/-- A document that shows a line, with a fill and a stroke. -/
def lineDocument (fill stroke : Text) : Text :=
  "<svg xmlns=\"http://www.w3.org/2000/svg\" width=\"24\" height=\"24\">".toList ++
    "<path d=\"M4 4L20 20\" fill=\"".toList ++ fill ++ "\" stroke=\"".toList ++ stroke ++
    "\"/></svg>".toList

/-- The markup of the line, with a fill and a stroke. -/
def lineMarkup (fill stroke : Text) : Text :=
  "<svg viewBox=\"0 0 24 24\" width=\"24\" height=\"24\" ".toList ++
    "xmlns=\"http://www.w3.org/2000/svg\"><defs/><path fill=\"".toList ++ fill ++
    "\" stroke=\"".toList ++ stroke ++ "\" d=\"M 4 4 L 20 20\"/></svg>".toList

/-- The word survives beside the first of the colours that could mask it. -/
theorem line_keeps_colors :
    ∃ icon, Icon.minify (.text (lineDocument "#FE00FE".toList "CurrentColor".toList)) [] [] =
        .ok icon ∧
      icon.markup = lineMarkup "#fe00fe".toList currentColor ∧
      ∃ masked green picture,
        IsMasked (lineDocument "#FE00FE".toList "CurrentColor".toList) masked [] green picture
          icon ∧
        ∃ written inside, WordApart written inside ∧
          Draws (respelled (maskColor green)) written inside picture := by
  have written : (Icon.minify (.text (lineDocument "#FE00FE".toList "CurrentColor".toList)) []
      []).map (·.markup) = .ok (lineMarkup "#fe00fe".toList currentColor) := by
    unfold lineDocument lineMarkup
    repeat rw [String.toList_ofList]
    decide +kernel
  have simple : (Xml.read (lineDocument "#FE00FE".toList
      "CurrentColor".toList)).toOption.all startsSimple = true := by
    decide +kernel
  cases accepted : Icon.minify (.text (lineDocument "#FE00FE".toList "CurrentColor".toList)) []
      [] with
  | error error => rw [accepted] at written; cases written
  | ok icon =>
    rw [accepted] at written
    refine ⟨icon, rfl, Except.ok.inj written, ?_⟩
    rcases Icon.minify_colors accepted with
      ⟨masked, green, picture, isMasked⟩ | ⟨picture, unmasked, -⟩
    · obtain ⟨name, own, inside, behind, read, -, draws⟩ :=
        isMasked.tree (Xml.refersApart_of_plain (by decide +kernel))
      rw [read] at simple
      have apart : WordApart own inside := wordApart_of_isSimple simple
      exact ⟨masked, green, picture, isMasked, own, inside, apart, draws apart⟩
    · rcases unmasked with silent | used
      · exact absurd silent (by decide +kernel)
      · exact absurd (used 1 (by decide)) (by decide +kernel)

/-- **The same colour in another spelling** is taken for the one that masks, and turned into the
word. -/
theorem line_loses_color :
    (Icon.minify (.text (lineDocument "rgb(254,0,254)".toList currentColor)) [] []).map
        (·.markup) = .ok (lineMarkup currentColor currentColor) ∧
      (Color.parse? "rgb(254,0,254)".toList).map Color.text = some "#fe00fe".toList ∧
      isCurrentColor "rgb(254,0,254)".toList = false := by
  unfold lineDocument lineMarkup
  repeat rw [String.toList_ofList]
  decide +kernel

end IconComponents
