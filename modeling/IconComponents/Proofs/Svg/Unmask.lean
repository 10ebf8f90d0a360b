/-
**Turning a colour of a picture back.**

When a masking colour is turned back in what is written of a picture, this changes how the colour is
spelled and what identifiers are, and nothing else.

* `TurnsInto` — what a part of a written picture turns into, whatever follows it;
* `spell` — how a colour is spelled then;
* `Picture.unmask_text` — what a picture turns into.
-/

import IconComponents.Proofs.Markup.Mask
import IconComponents.Proofs.Svg.Spelling

namespace IconComponents.Svg

open Recogniser

variable {mask text text' more more' : Text} {name : String} {green : Nat}

/-! ### Parts -/

/-- What a text turns into, whatever follows it. -/
def TurnsInto (mask text text' : Text) : Prop :=
  ∀ behind, unmask mask (text ++ behind) = text' ++ unmask mask behind

theorem TurnsInto.append (first : TurnsInto mask text text') (second : TurnsInto mask more more') :
    TurnsInto mask (text ++ more) (text' ++ more') := by
  intro behind
  rw [List.append_assoc, first, second, List.append_assoc]

/-- What turns into a text whatever follows does so alone. -/
theorem TurnsInto.whole (turns : TurnsInto mask text text') : unmask mask text = text' := by
  have alone := turns []
  rwa [List.append_nil, unmask, unmask, Text.replaceAll, List.append_nil] at alone

/-- A text without a mark stays as it is. -/
theorem turnsInto_self (isMask : IsMask mask) (free : '#' ∉ text) : TurnsInto mask text text := by
  obtain ⟨digits, rfl, -⟩ := isMask.shape
  intro behind
  refine Text.replaceAll_append_of_refuses (List.cons_ne_nil _ _) ?_
  intro ahead tail split nonempty
  refine literal_eq_none fun rest same => free ?_
  obtain ⟨first, others, rfl⟩ := List.exists_cons_of_ne_nil nonempty
  rw [split, ← (List.cons.inj same).1]
  exact List.mem_append_right _ List.mem_cons_self

theorem quote_not_mem (isMask : IsMask mask) : '"' ∉ mask := by
  obtain ⟨digits, rfl, solid⟩ := isMask.shape
  rw [List.mem_cons, not_or]
  exact ⟨by decide, fun member => absurd (solid.solid _ member) (by decide)⟩

/-- What ends in a quotation mark turns into something by itself. -/
theorem turnsInto_quoted (isMask : IsMask mask) (text : Text) :
    TurnsInto mask (text ++ ['"']) (unmask mask (text ++ ['"'])) := by
  have cut := Text.replaceAll_append_cons isMask.some (quote_not_mem isMask) currentColor text
  intro behind
  rw [List.append_assoc, unmask, List.singleton_append, cut, unmask, cut, List.append_assoc,
    Text.replaceAll]
  rfl

/-! ### Colours -/

/-- How a colour is spelled where one colour stands for the surrounding one. -/
def spell (mask : Text) (color : Color) : Text :=
  if color.text = mask then currentColor else color.text

theorem not_mem_byteText {c : Char} (foreign : c ∉ "0123456789abcdef*".toList) (n : Nat) :
    c ∉ Color.byteText n := by
  rw [Color.byteText, List.mem_pair, not_or]
  exact ⟨ne_digitChar foreign _, ne_digitChar foreign _⟩

/-- A colour is written as a mark and six digits. -/
theorem Color.text_shape (color : Color) :
    ∃ digits, color.text = '#' :: digits ∧ digits.length = 6 ∧
      ∀ c ∉ "0123456789abcdef*".toList, c ∉ digits := by
  refine ⟨byteText color.red ++ byteText color.green ++ byteText color.blue, rfl, rfl,
    fun c foreign => ?_⟩
  simp only [List.mem_append, not_or]
  exact ⟨⟨not_mem_byteText foreign _, not_mem_byteText foreign _⟩, not_mem_byteText foreign _⟩

theorem quote_not_mem_color (color : Color) : '"' ∉ color.text := by
  obtain ⟨digits, shape, -, foreign⟩ := color.text_shape
  rw [shape, List.mem_cons, not_or]
  exact ⟨by decide, foreign '"' (by decide)⟩

/-- The masking colour is turned back, and no other one is. -/
theorem unmask_color (byte : green < 256) (color : Color) :
    unmask (maskColor green) color.text = spell (maskColor green) color := by
  have isMask := isMask_maskColor byte
  unfold spell
  split
  · next same =>
    have whole := Text.replaceAll_needle_append isMask.some currentColor []
    rw [List.append_nil, Text.replaceAll, List.append_nil] at whole
    rwa [same]
  · next other =>
    obtain ⟨digits, shape, length, foreign⟩ := color.text_shape
    rw [shape, unmask, Text.replaceAll_of_none isMask.some]
    · exact congrArg ('#' :: ·) (turnsInto_self isMask (foreign '#' (by decide))).whole
    · refine literal_eq_none fun rest same => other ?_
      have lengths := congrArg List.length same
      rw [List.length_cons, length, List.length_append] at lengths
      have none : rest = [] := List.length_eq_zero_iff.mp (by
        have seven : (maskColor green).length = 7 := rfl
        omega)
      rw [shape, same, none, List.append_nil]

theorem attributeText_of_plain (plain : '"' ∉ text) :
    attributeText name text = (' ' :: name.toList ++ "=\"".toList) ++ (text ++ ['"']) := by
  have kept : (text.flatMap fun c => if c = '"' then "&quot;".toList else [c]) = text := by
    induction text with
    | nil => rfl
    | cons c text ih =>
      rw [List.mem_cons, not_or] at plain
      rw [List.flatMap_cons, if_neg (Ne.symm plain.1), ih plain.2]
      rfl
  rw [attributeText, kept, List.append_assoc]

/-- **An attribute with a colour** has the colour spelled anew. -/
theorem turnsInto_color (byte : green < 256) (plain : '#' ∉ name.toList) (color : Color) :
    TurnsInto (maskColor green) (attributeText name color.text)
      (attributeText name (spell (maskColor green) color)) := by
  have isMask := isMask_maskColor byte
  have quote := quote_not_mem_color color
  have quote' : '"' ∉ spell (maskColor green) color := by
    unfold spell
    split
    · decide
    · exact quote
  rw [attributeText_of_plain quote, attributeText_of_plain quote']
  refine TurnsInto.append (turnsInto_self isMask ?_) ?_
  · simp only [List.mem_append, List.mem_cons, not_or]
    exact ⟨⟨by decide, plain⟩, by decide⟩
  · have turns := turnsInto_quoted isMask color.text
    rwa [unmask, Text.replaceAll_append_cons isMask.some (quote_not_mem isMask), ← unmask,
      unmask_color byte, Text.replaceAll] at turns

theorem turnsInto_id (isMask : IsMask mask) (common id : Text) :
    TurnsInto mask (idText common id) (unmask mask (idText common id)) := by
  unfold idText attributeIf
  split
  · exact turnsInto_quoted isMask _
  · intro behind
    rw [unmask, unmask, Text.replaceAll]
    rfl

/-! ### Pictures -/

/-- A fill turns into the respelled one. -/
theorem turnsInto_fill (byte : green < 256) (fill : Option Fill) :
    TurnsInto (maskColor green) (fillSpelled Color.text fill)
      (fillSpelled (spell (maskColor green)) fill) := by
  have isMask := isMask_maskColor byte
  cases fill with
  | none => exact turnsInto_self isMask (unmarked_attribute (by decide) (by decide))
  | some fill =>
    refine ((turnsInto_color byte (by decide) fill.color).append ?_).append ?_
    · exact turnsInto_self isMask (unmarked_attributeIf (by decide) (unmarked_binary _))
    · exact turnsInto_self isMask (unmarked_attributeIf (by decide) (by decide))

/-- A stroke turns into the respelled one. -/
theorem turnsInto_stroke (byte : green < 256) (stroke : Option Stroke) :
    TurnsInto (maskColor green) (strokeSpelled Color.text stroke)
      (strokeSpelled (spell (maskColor green)) stroke) := by
  have isMask := isMask_maskColor byte
  cases stroke with
  | none => exact turnsInto_self isMask (unmarked_attribute (by decide) (by decide))
  | some stroke =>
    exact (turnsInto_color byte (by decide) stroke.color).append
      (turnsInto_self isMask (unmarked_strokeDetails stroke))

section Named

variable {named : Text → Text}

/-- A path turns into the respelled one. -/
theorem turnsInto_path (byte : green < 256)
    (apart : ∀ id, TurnsInto (maskColor green) (named id) (unmask (maskColor green) (named id)))
    (path : PaintedPath) :
    TurnsInto (maskColor green) (path.spelled Color.text named)
      (path.spelled (spell (maskColor green)) fun id => unmask (maskColor green) (named id)) := by
  have isMask := isMask_maskColor byte
  refine TurnsInto.append (TurnsInto.append (TurnsInto.append (TurnsInto.append
    (TurnsInto.append (TurnsInto.append ?_ (apart path.id)) (turnsInto_fill byte path.fill))
    (turnsInto_stroke byte path.stroke)) ?_) ?_) ?_
  · exact turnsInto_self isMask (by decide)
  · exact turnsInto_self isMask (unmarked_attributeIf (by decide) (by decide))
  · exact turnsInto_self isMask (unmarked_attribute (by decide) (unmarked_outline _))
  · exact turnsInto_self isMask (by decide)

/-- A drawing turns into the respelled one. -/
theorem turnsInto_drawing (byte : green < 256)
    (apart : ∀ id, TurnsInto (maskColor green) (named id) (unmask (maskColor green) (named id)))
    (drawing : Drawing) :
    TurnsInto (maskColor green) (drawing.spelled Color.text named)
      (drawing.spelled (spell (maskColor green)) fun id => unmask (maskColor green) (named id)) := by
  have isMask := isMask_maskColor byte
  induction drawing with
  | empty => exact turnsInto_self isMask List.not_mem_nil
  | group id opacity placement inside behind inner outer =>
    unfold Drawing.spelled
    refine TurnsInto.append (TurnsInto.append (TurnsInto.append (TurnsInto.append ?_ (apart id))
      (turnsInto_self isMask (unmarked_groupDetails opacity placement))) ?_) outer
    · exact turnsInto_self isMask (by decide)
    · have opens : TurnsInto (maskColor green) ['>'] ['>'] := turnsInto_self isMask (by decide)
      have closes : TurnsInto (maskColor green) "</g>".toList "</g>".toList :=
        turnsInto_self isMask (by decide)
      have vacant : TurnsInto (maskColor green) "/>".toList "/>".toList :=
        turnsInto_self isMask (by decide)
      cases inside with
      | empty => exact vacant
      | group => exact (opens.append inner).append closes
      | path => exact (opens.append inner).append closes
  | path painted behind ih => exact (turnsInto_path byte apart painted).append ih

end Named

/-- **What a picture turns into** when a masking colour is turned back: this colour is spelled as
`currentColor`, and every other one as its own number. -/
theorem Picture.unmask_text (byte : green < 256) (common : Text) (picture : Picture) :
    unmask (maskColor green) (picture.text common) =
      picture.spelled (spell (maskColor green))
        fun id => unmask (maskColor green) (idText common id) := by
  have isMask := isMask_maskColor byte
  rw [picture.text_eq_spelled common]
  refine TurnsInto.whole ?_
  unfold Picture.spelled
  refine TurnsInto.append (TurnsInto.append (turnsInto_self isMask ?_)
    (turnsInto_drawing byte (turnsInto_id isMask common) picture.drawing)) ?_
  · simp only [List.mem_append, not_or]
    exact ⟨⟨⟨⟨by decide, unmarked_attribute (by decide) (unmarked_binary _)⟩,
      unmarked_attribute (by decide) (unmarked_binary _)⟩,
      unmarked_attribute (by decide) (by decide)⟩, by decide⟩
  · exact turnsInto_self isMask (by decide)

end IconComponents.Svg
