/-
**How the colours of a picture are spelled.**

A picture can be written with its colours spelled in one way or another. What is written besides has
no mark (`#`), apart from identifiers.

* `Picture.spelled` — a picture whose colours are spelled in a given way;
* `Picture.text_eq_spelled` — pictures are written with their colours as numbers;
* `unmarked_strokeDetails`, `unmarked_outline` — what has no mark.
-/

import Mathlib.Data.List.Basic
import IconComponents.Proofs.Number.Numeral
import IconComponents.Svg.Printer

namespace IconComponents.Svg

variable {value : Text} {name : String}

/-! ### Spelled pictures -/

/-- A fill whose colour is spelled in a given way. -/
def fillSpelled (spell : Color → Text) : Option Fill → Text
  | none => attributeText "fill" "none".toList
  | some fill =>
    attributeText "fill" (spell fill.color) ++ opacityText "fill-opacity" fill.opacity ++
      attributeIf fill.alternating "fill-rule" "evenodd".toList

/-- What is written of a stroke behind its colour. -/
def strokeDetails (stroke : Stroke) : Text :=
  opacityText "stroke-opacity" stroke.opacity ++
    attributeIf (!stroke.offset.isNear (.ofInt .single 0)) "stroke-dashoffset" stroke.offset.text ++
    attributeIf (!stroke.miterLimit.isNear (.ofInt .single 4)) "stroke-miterlimit"
      stroke.miterLimit.text ++
    attributeIf (!stroke.width.isNear (.ofInt .single 1)) "stroke-width" stroke.width.text ++
    nameText "stroke-linecap" stroke.cap.name? ++ nameText "stroke-linejoin" stroke.join.name? ++
    attributeIf (!stroke.dashes.isEmpty) "stroke-dasharray"
      (Text.joinWith [' '] (stroke.dashes.map Binary.text))

/-- A stroke whose colour is spelled in a given way. -/
def strokeSpelled (spell : Color → Text) : Option Stroke → Text
  | none => attributeText "stroke" "none".toList
  | some stroke => attributeText "stroke" (spell stroke.color) ++ strokeDetails stroke

/-- A path whose colours are spelled in a given way; `named` writes its identifier. -/
def PaintedPath.spelled (spell : Color → Text) (named : Text → Text) (path : PaintedPath) : Text :=
  "<path".toList ++ named path.id ++ fillSpelled spell path.fill ++
    strokeSpelled spell path.stroke ++ attributeIf (!path.visible) "visibility" "hidden".toList ++
    attributeText "d" path.outline.text ++ "/>".toList

/-- How the opening tag of a group goes on behind its identifier. -/
def groupDetails (opacity : Single) (placement : Option Placement) : Text :=
  opacityText "opacity" opacity ++
    placement.elim [] fun placement => attributeText "transform" placement.text

/-- A drawing whose colours are spelled in a given way. -/
def Drawing.spelled (spell : Color → Text) (named : Text → Text) : Drawing → Text
  | empty => []
  | group id opacity placement inside behind =>
    "<g".toList ++ named id ++ groupDetails opacity placement ++
      (match inside with
      | empty => "/>".toList
      | _ => '>' :: inside.spelled spell named ++ "</g>".toList) ++
      behind.spelled spell named
  | path painted behind => painted.spelled spell named ++ behind.spelled spell named

/-- A picture whose colours are spelled in a given way. -/
def Picture.spelled (spell : Color → Text) (named : Text → Text) (picture : Picture) : Text :=
  "<svg".toList ++ attributeText "width" picture.width.text ++
    attributeText "height" picture.height.text ++ attributeText "xmlns" svgNamespace ++
    "><defs/>".toList ++ picture.drawing.spelled spell named ++ "</svg>".toList

theorem fillText_eq_spelled (fill : Option Fill) : fillText fill = fillSpelled Color.text fill := by
  cases fill <;> rfl

theorem strokeText_eq_spelled (stroke : Option Stroke) :
    strokeText stroke = strokeSpelled Color.text stroke := by
  cases stroke with
  | none => rfl
  | some stroke => simp only [strokeText, strokeSpelled, strokeDetails, List.append_assoc]

/-- A path is written with its colours as they are. -/
theorem PaintedPath.text_eq_spelled (common : Text) (path : PaintedPath) :
    path.text common = path.spelled Color.text (idText common) := by
  unfold PaintedPath.text PaintedPath.spelled
  rw [fillText_eq_spelled, strokeText_eq_spelled]

theorem Drawing.text_eq_spelled (common : Text) (drawing : Drawing) :
    drawing.text common = drawing.spelled Color.text (idText common) := by
  induction drawing with
  | empty => rfl
  | group id opacity placement inside behind inner outer =>
    unfold Drawing.text Drawing.spelled
    rw [outer, inner, groupDetails]
    cases inside <;> simp only [List.append_assoc]
  | path painted behind ih =>
    unfold Drawing.text Drawing.spelled
    rw [ih, painted.text_eq_spelled]

/-- **A picture is written with each colour spelled as its own number.** -/
theorem Picture.text_eq_spelled (common : Text) (picture : Picture) :
    picture.text common = picture.spelled Color.text (idText common) := by
  unfold Picture.text Picture.spelled
  rw [Drawing.text_eq_spelled]

/-! ### Texts without a mark -/

theorem digitChar_of_le {n : Nat} (large : 16 ≤ n) : Nat.digitChar n = '*' := by
  obtain ⟨k, rfl⟩ := Nat.exists_eq_add_of_le large
  unfold Nat.digitChar
  simp +arith

theorem digitChar_mem (n : Nat) : Nat.digitChar n ∈ "0123456789abcdef*".toList := by
  have digits : ∀ n < 16, Nat.digitChar n ∈ "0123456789abcdef*".toList := by decide
  by_cases small : n < 16
  · exact digits n small
  · rw [digitChar_of_le (Nat.le_of_not_lt small)]
    decide

/-- A character that is no digit is none of a number. -/
theorem ne_digitChar {c : Char} (foreign : c ∉ "0123456789abcdef*".toList) (n : Nat) :
    c ≠ Nat.digitChar n := fun same => foreign (same ▸ digitChar_mem n)

theorem unmarked_joinWith {separator : Text} {parts : List Text} (apart : '#' ∉ separator)
    (free : ∀ part ∈ parts, '#' ∉ part) : '#' ∉ Text.joinWith separator parts := by
  unfold Text.joinWith
  induction parts with
  | nil => simp
  | cons part parts ih =>
    obtain ⟨first, others⟩ := List.forall_mem_cons.mp free
    cases parts with
    | nil => rwa [List.intercalate_singleton]
    | cons next parts =>
      simp only [List.intercalate_cons_cons, List.mem_append, not_or]
      exact ⟨⟨first, apart⟩, ih others⟩

theorem unmarked_binary {format : Format} (n : Binary format) : '#' ∉ n.text :=
  (isNumeral_binary n).not_mem (by decide)

theorem unmarked_coordinate (n : Single) : '#' ∉ coordinateText n := by
  rw [coordinateText]
  split
  · exact ((isNumeral_sign _).append (isNumeral_ofNat _)).not_mem (by decide)
  · exact unmarked_binary _

/-- No outline has a mark. -/
theorem unmarked_outline (outline : Outline) : '#' ∉ outline.text := by
  refine unmarked_joinWith (by decide) fun part member => ?_
  obtain ⟨step, -, rfl⟩ := List.mem_map.mp member
  refine unmarked_joinWith (by decide) fun piece among => ?_
  rcases List.mem_cons.mp among with rfl | among
  · cases step <;> simp [PenStep.letter]
  · obtain ⟨point, -, rfl⟩ := List.mem_map.mp among
    rw [pointText, List.mem_append, List.mem_cons, not_or, not_or]
    exact ⟨unmarked_coordinate _, by decide, unmarked_coordinate _⟩

/-- The characters that an attribute has besides those of its name and its value. -/
def attributeCharacters : Text := " =\"&quot;".toList

theorem not_mem_attribute {c : Char} (foreign : c ∉ attributeCharacters) (plain : c ∉ name.toList)
    (free : c ∉ value) : c ∉ attributeText name value := by
  have apart (text : Text) (within : text ⊆ attributeCharacters) : c ∉ text :=
    fun member => foreign (within member)
  have escaped : c ∉ value.flatMap fun c => if c = '"' then "&quot;".toList else [c] := by
    intro member
    obtain ⟨d, there, within⟩ := List.mem_flatMap.mp member
    split at within
    · exact apart _ (by decide) within
    · exact free (List.mem_singleton.mp within ▸ there)
  rw [attributeText]
  simp only [List.mem_append, List.mem_cons, List.cons_append, not_or]
  exact ⟨fun same => apart [' '] (by decide) (same ▸ List.mem_cons_self),
    ⟨⟨plain, apart _ (by decide)⟩, escaped⟩,
    fun same => apart ['"'] (by decide) (same ▸ List.mem_cons_self), List.not_mem_nil⟩

theorem unmarked_attribute (plain : '#' ∉ name.toList) (free : '#' ∉ value) :
    '#' ∉ attributeText name value := not_mem_attribute (by decide) plain free

theorem unmarked_attributeIf {condition : Bool} (plain : '#' ∉ name.toList) (free : '#' ∉ value) :
    '#' ∉ attributeIf condition name value := by
  rw [attributeIf]
  split
  · exact unmarked_attribute plain free
  · simp

theorem unmarked_name {value? : Option String} (plain : '#' ∉ name.toList)
    (free : ∀ value, value? = some value → '#' ∉ value.toList) : '#' ∉ nameText name value? := by
  cases value? with
  | none => simp [nameText]
  | some value => exact unmarked_attribute plain (free value rfl)

theorem unmarked_strokeDetails (stroke : Stroke) : '#' ∉ strokeDetails stroke := by
  unfold strokeDetails
  simp only [List.mem_append, not_or]
  refine ⟨⟨⟨⟨⟨⟨?_, ?_⟩, ?_⟩, ?_⟩, ?_⟩, ?_⟩, ?_⟩
  · exact unmarked_attributeIf (by decide) (unmarked_binary _)
  · exact unmarked_attributeIf (by decide) (unmarked_binary _)
  · exact unmarked_attributeIf (by decide) (unmarked_binary _)
  · exact unmarked_attributeIf (by decide) (unmarked_binary _)
  · refine unmarked_name (by decide) fun value same => ?_
    cases cap : stroke.cap <;> rw [cap] at same <;> cases same <;> decide
  · refine unmarked_name (by decide) fun value same => ?_
    cases join : stroke.join <;> rw [join] at same <;> cases same <;> decide
  · refine unmarked_attributeIf (by decide) (unmarked_joinWith (by decide) fun part member => ?_)
    obtain ⟨dash, -, rfl⟩ := List.mem_map.mp member
    exact unmarked_binary dash

theorem unmarked_placement (placement : Placement) : '#' ∉ placement.text := by
  unfold Placement.text
  simp only [List.mem_append, not_or]
  refine ⟨⟨by decide, unmarked_joinWith (by decide) fun part member => ?_⟩, by decide⟩
  obtain ⟨n, -, rfl⟩ := List.mem_map.mp member
  exact unmarked_coordinate n

theorem unmarked_groupDetails (opacity : Single) (placement : Option Placement) :
    '#' ∉ groupDetails opacity placement := by
  unfold groupDetails
  rw [List.mem_append, not_or]
  refine ⟨unmarked_attributeIf (by decide) (unmarked_binary _), ?_⟩
  cases placement with
  | none => simp
  | some placement => exact unmarked_attribute (by decide) (unmarked_placement placement)

end IconComponents.Svg
