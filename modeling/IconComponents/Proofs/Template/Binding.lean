/-
**Colours are bound in their component.**

For each colour of an icon the built-in template writes a constant with the colour's default, and a
property that takes its default from this constant. It writes both exactly if the icon has the
colour, so that a reference in the icon has a name to refer to.

The root tag is searched for in what is written, from the start on. A colour that opens a tag itself
keeps the icon from the root tag, and may receive it in the middle of its constant.

* `PaintAttribute.declaration`, `PaintAttribute.binding` — what is written for a colour;
* `Payload.around` — what the built-in template writes, in full;
* `Bound` — what is written for a colour fits the references that come into the markup;
* `opensIn_constants`, `opensIn_function` — what opens a tag in front of the root tag;
* `builtin_binds` — all colours of every icon are bound, and where the icon goes;
* `tag_colour_unbound` — a colour that is not bound, because it holds a root tag.
-/

import IconComponents.Proofs.Component.Agreement
import IconComponents.Proofs.Component.Quoted
import IconComponents.Proofs.Number.Numeral
import IconComponents.Proofs.Template.Outline
import IconComponents.Proofs.Template.Provenance

namespace IconComponents

open Splicing

/-! ### What is written for a colour -/

namespace PaintAttribute

/-- The name of the constant that holds a colour's default. -/
def constantName : PaintAttribute → Text
  | fill => "DEFAULT_FILL_VALUE".toList
  | stroke => "DEFAULT_STROKE_VALUE".toList

/-- How the declaration of the constant starts. -/
def declarationStart (paint : PaintAttribute) : Text :=
  "\nconst ".toList ++ paint.constantName ++ " = ".toList

/-- The declaration of the constant. -/
def declaration (paint : PaintAttribute) (literal : Text) : Text :=
  paint.declarationStart ++ literal ++ ";\n".toList

/-- The property that takes its default from the constant. -/
def binding (paint : PaintAttribute) : Text :=
  "    ".toList ++ paint.name ++ " = ".toList ++ paint.constantName ++ ",\n".toList

end PaintAttribute

section

variable (payload : Payload) (paint : PaintAttribute)

/-- The declaration of a colour's constant, if the colour has a default. -/
def Payload.declarationOf : Text := ((payload.defaultOf paint).map paint.declaration).getD []

/-- The property of a colour, if the colour has a default. -/
def Payload.bindingOf : Text := ((payload.defaultOf paint).map fun _ => paint.binding).getD []

end

/-! ### The template in full -/

/-- The line behind the comment on the source. -/
def importLine : Text := "\nimport type \x7b SVGProps \x7d from 'react';\n".toList

/-- The type of the properties, with the ones that every component has. -/
def propertiesStart : Text :=
  "\ntype TProps = Omit<SVGProps<SVGSVGElement>, 'width' | 'height' | 'fill' | 'stroke'>".toList ++
    " & \x7b\n  width?: number | string;\n  height?: number | string;\n\x7d".toList

/-- What is written between the properties of the colours and the root tag. -/
def bodyStart : Text :=
  "    className,\n    style,\n    ...rest\n  \x7d = props;\n".toList ++
    "  const sizeStyle = \x7b width, height, ...style \x7d;\n\n  return (\n    ".toList

/-- What is written behind the root tag, up to the component's name at the end. -/
def bodyEnd : Text := "\n  );\n\x7d\n\nexport default ".toList

namespace Template.Outline

/-- The constant of a colour. -/
def declaration (paint : PaintAttribute) (rest : Template.Outline) : Template.Outline :=
  .whenGiven paint.name
    (.words paint.declarationStart <| .field paint.name <| .words ";\n".toList .done) rest

/-- The property of a colour. -/
def binding (paint : PaintAttribute) (rest : Template.Outline) : Template.Outline :=
  .whenGiven paint.name (.words paint.binding .done) rest

/-- The type of the properties, and the function up to the properties for the size. -/
def signature (rest : Template.Outline) : Template.Outline :=
  .words propertiesStart <|
  .whenGiven "prop_type".toList (.words " & ".toList <| .field "prop_type".toList .done) <|
  .words ";\n\n/**\n * ".toList <| .field "component_name".toList <| .words " icon, ".toList <|
  .field "width".toList <| .words ['x'] <| .field "height".toList <|
  .words ".\n *\n * @param \x7bTProps\x7d props\n */\nexport function ".toList <|
  .field "component_name".toList <|
  .words "(props: TProps) \x7b\n  const \x7b\n    width = ".toList <| .field "width".toList <|
  .words ",\n    height = ".toList <| .field "height_default".toList <| .words ",\n".toList rest

end Template.Outline

/-- The outline of the built-in template in front of its root tag. -/
def headOutline : Template.Outline :=
  .words importLine <| .declaration .fill <| .declaration .stroke <| .signature <|
    .binding .fill <| .binding .stroke <| .words bodyStart .done

/-- The outline of the built-in template from the component's name at the end on. -/
def nameOutline : Template.Outline :=
  .field "component_name".toList <| .words ";\n".toList .done

namespace Payload

/-- What is written between the comment on the source and the function. -/
def constants (payload : Payload) : Text :=
  importLine ++ (payload.declarationOf .fill ++ payload.declarationOf .stroke)

/-- The function up to its root tag, with the type of its properties. -/
def function (payload : Payload) : Text :=
  (Template.Outline.signature .done).write payload ++
    (payload.bindingOf .fill ++ (payload.bindingOf .stroke ++ bodyStart))

/-- What is written behind the root tag. -/
def tail (payload : Payload) : Text := bodyEnd ++ (payload.componentName ++ ";\n".toList)

/-- What is written around a root, in full. -/
def around (payload : Payload) (root : Text) : Text :=
  sourceComment payload.path ++ (payload.constants ++ payload.function ++ (root ++ payload.tail))

end Payload

variable {payload : Payload} {paint : PaintAttribute} {rest : Template.Outline}

theorem field?_name (payload : Payload) (paint : PaintAttribute) :
    payload.field? paint.name = some (.ofOption (payload.defaultOf paint)) := by
  cases paint <;> rfl

/-- A default that is not empty counts as given. -/
theorem isGiven_name (solid : payload.defaultOf paint ≠ some []) :
    payload.isGiven paint.name = (payload.defaultOf paint).isSome := by
  rw [Payload.isGiven, field?_name]
  cases default : payload.defaultOf paint with
  | none => rfl
  | some literal =>
    cases literal with
    | nil => exact absurd default solid
    | cons c literal => rfl

/-- The declaration of a default is written, if there is one. -/
theorem write_declaration (solid : payload.defaultOf paint ≠ some []) :
    (Template.Outline.declaration paint rest).write payload =
      payload.declarationOf paint ++ rest.write payload := by
  rw [Template.Outline.declaration, Template.Outline.write, isGiven_name solid,
    Payload.declarationOf]
  cases default : payload.defaultOf paint with
  | none => rfl
  | some literal =>
    simp [Template.Outline.write, Payload.textOf, field?_name, default, PaintAttribute.declaration,
      FieldValue.ofOption, FieldValue.written]

theorem write_binding (solid : payload.defaultOf paint ≠ some []) :
    (Template.Outline.binding paint rest).write payload =
      payload.bindingOf paint ++ rest.write payload := by
  rw [Template.Outline.binding, Template.Outline.write, isGiven_name solid, Payload.bindingOf]
  cases payload.defaultOf paint <;> simp [Template.Outline.write]

theorem write_signature (payload : Payload) (rest : Template.Outline) :
    (Template.Outline.signature rest).write payload =
      (Template.Outline.signature .done).write payload ++ rest.write payload := by
  simp only [Template.Outline.signature, Template.Outline.write, List.append_assoc, List.append_nil]

/-- The head of a component is its constants and its function. -/
theorem write_headOutline (solid : ∀ paint, payload.defaultOf paint ≠ some []) :
    headOutline.write payload = payload.constants ++ payload.function := by
  rw [headOutline, Template.Outline.write, write_declaration (solid .fill),
    write_declaration (solid .stroke), write_signature, write_binding (solid .fill),
    write_binding (solid .stroke), Payload.constants, Payload.function]
  simp only [Template.Outline.write, List.append_assoc, List.append_nil]

/-- What is in front of the root tag of the built-in template, and what is behind it. -/
theorem exists_outlined : ∃ template rest front behind, Template.builtin = .ok template ∧
    Commented builtinFields componentRoot.print template rest front bodyEnd behind ∧
    front.outline? = some headOutline ∧
    behind.outline? = some nameOutline := by
  obtain ⟨template, builtin, commented⟩ := exists_builtin
  obtain ⟨rest, front, words, behind, parts⟩ := exists_commented commented
  have outlines : ((Template.parse? builtinSource).bind fun template =>
      template.behindComment?.bind (·.cutAt? componentRoot.print)).all
        (fun around => around.2.1 = bodyEnd ∧ around.1.outline? = some headOutline ∧
          around.2.2.outline? = some nameOutline) = true := by
    unfold builtinSource builtinLines headOutline Template.Outline.signature importLine
      propertiesStart bodyStart
    simp only [List.flatMap_cons, List.flatMap_nil]
    repeat rw [String.toList_ofList]
    decide +kernel
  have parsed : Template.parse? builtinSource = some template := Template.ofSource_eq_ok.mp builtin
  rw [parsed, Option.bind_some, parts.starts, Option.bind_some, parts.cut] at outlines
  obtain ⟨rfl, head, tail⟩ := of_decide_eq_true outlines
  exact ⟨template, rest, front, behind, builtin, parts, head, tail⟩

/-! ### Bound colours -/

/-- What is written for a colour fits the references that come into a markup: without a colour
nothing is written and no reference comes in, one text is the default for references to the property
as a whole, and a list is the default for references to its members. -/
inductive Bound (paint : PaintAttribute) (set : Occurrences) : Text → Text → Prop
  | absent (none : set.texts = []) (unchanged : ∀ markup, set.install markup = markup) :
      Bound paint set [] []
  | one {literal value : Text} (nonempty : set.texts ≠ []) (default : set.default? = some literal)
      (reads : Default.read? literal = some (.one value)) (inserts : set.InsertsOnly paint.IsBare) :
      Bound paint set (paint.declaration literal) paint.binding
  | several {literal : Text} {values : List Text} (nonempty : set.texts ≠ [])
      (default : set.default? = some literal)
      (reads : Default.read? literal = some (.several values))
      (inserts : set.InsertsOnly (paint.IsIndexedBelow values.length)) :
      Bound paint set (paint.declaration literal) paint.binding

/-- A default is the literal of a text or of a list. -/
theorem read?_default {set : Occurrences} {literal : Text} (default : set.default? = some literal) :
    (∃ value, Default.read? literal = some (.one value)) ∨
      ∃ values, Default.read? literal = some (.several values) := by
  rw [Occurrences.default?] at default
  split at default
  · cases default
  · cases default
    exact Or.inl ⟨_, read?_quote _⟩
  · cases default
    exact Or.inr ⟨_, read?_quoteAll _⟩

theorem defaultOf_ofIcon (icon : Icon) (componentName : Text) (paint : PaintAttribute) :
    (Payload.ofIcon icon componentName).defaultOf paint =
      (Occurrences.extract icon.markup paint).default? := by
  cases paint <;> rfl

/-- A payload declares and binds the defaults of its icon. -/
theorem bound_ofIcon (icon : Icon) (componentName : Text) (paint : PaintAttribute) :
    Bound paint (Occurrences.extract icon.markup paint)
      ((Payload.ofIcon icon componentName).declarationOf paint)
      ((Payload.ofIcon icon componentName).bindingOf paint) := by
  rw [Payload.declarationOf, Payload.bindingOf, defaultOf_ofIcon]
  have agree := Occurrences.agree_extract icon.markup paint
  cases default : (Occurrences.extract icon.markup paint).default? with
  | none =>
    have texts := agree.absent.mp default
    exact .absent texts fun markup => by rw [Occurrences.install, texts]; rfl
  | some literal =>
    have nonempty : (Occurrences.extract icon.markup paint).texts ≠ [] := fun texts => by
      rw [agree.absent.mpr texts] at default
      cases default
    rcases read?_default default with ⟨value, reads⟩ | ⟨values, reads⟩
    · obtain ⟨-, inserts⟩ := agree.one.mp ⟨value, by rw [default]; exact reads⟩
      exact .one nonempty default reads inserts
    · obtain ⟨-, -, inserts⟩ :=
        (agree.several values.length).mp ⟨values, by rw [default]; exact reads, rfl⟩
      exact .several nonempty default reads inserts

/-- The default of a colour is written as more than nothing. -/
theorem defaultOf_ofIcon_ne_nil (icon : Icon) (componentName : Text) (paint : PaintAttribute) :
    (Payload.ofIcon icon componentName).defaultOf paint ≠ some [] := by
  rw [defaultOf_ofIcon]
  intro default
  rcases read?_default default with ⟨value, reads⟩ | ⟨values, reads⟩ <;> cases reads

/-! ### Tags in front of the root tag -/

/-- A colour of an icon opens a tag. -/
def Icon.OpensInColour (icon : Icon) : Prop :=
  ∃ paint, ∃ value ∈ (Occurrences.extract icon.markup paint).values, SvgTag.OpensIn value

section

variable (icon : Icon) (componentName : Text)

theorem wordEnds_declarationOf (payload : Payload) (paint : PaintAttribute) :
    Text.wordEnds (payload.declarationOf paint) = true := by
  rw [Payload.declarationOf]
  cases payload.defaultOf paint <;> rfl

theorem bracket_not_mem_bindingOf (payload : Payload) (paint : PaintAttribute) :
    '<' ∉ payload.bindingOf paint := by
  rw [Payload.bindingOf]
  cases payload.defaultOf paint with
  | none => exact List.not_mem_nil
  | some literal =>
    show '<' ∉ paint.binding
    cases paint <;> decide

/-- A declaration opens a tag exactly if a colour does. -/
theorem opensIn_declarationOf (paint : PaintAttribute) :
    SvgTag.OpensIn ((Payload.ofIcon icon componentName).declarationOf paint) ↔
      ∃ value ∈ (Occurrences.extract icon.markup paint).values, SvgTag.OpensIn value := by
  have last : ¬ SvgTag.OpensIn ";\n".toList := SvgTag.not_opensIn_of_free (by decide)
  have start : '<' ∉ paint.declarationStart := by cases paint <;> decide
  rw [Payload.declarationOf, defaultOf_ofIcon]
  cases default : (Occurrences.extract icon.markup paint).default? with
  | none =>
    have values : (Occurrences.extract icon.markup paint).values = [] := by
      rw [Occurrences.default?] at default
      split at default
      · assumption
      · cases default
      · cases default
    exact iff_of_false (SvgTag.not_opensIn_of_free List.not_mem_nil) (by simp [values])
  | some literal =>
    rw [Option.map_some, Option.getD_some, PaintAttribute.declaration, SvgTag.opensIn_append rfl,
      or_iff_left last, SvgTag.opensIn_of_free start, opensIn_default default]

/-- The comment and the constants open a tag exactly if the path or a colour does. -/
theorem opensIn_constants :
    SvgTag.OpensIn (sourceComment (Payload.ofIcon icon componentName).path ++
        (Payload.ofIcon icon componentName).constants) ↔
      SvgTag.OpensIn (Payload.ofIcon icon componentName).path ∨ icon.OpensInColour := by
  have start : '<' ∉ commentStart := by decide
  have stop : '<' ∉ commentEnd := by decide
  have line : '<' ∉ importLine := by decide
  have ends : Text.wordEnds (commentEnd ++ (Payload.ofIcon icon componentName).constants) = true :=
    rfl
  have colours : icon.OpensInColour ↔
      (∃ value ∈ (Occurrences.extract icon.markup .fill).values, SvgTag.OpensIn value) ∨
        ∃ value ∈ (Occurrences.extract icon.markup .stroke).values, SvgTag.OpensIn value := by
    constructor
    · rintro ⟨paint, opened⟩
      cases paint with
      | fill => exact Or.inl opened
      | stroke => exact Or.inr opened
    · rintro (opened | opened)
      · exact ⟨.fill, opened⟩
      · exact ⟨.stroke, opened⟩
  rw [sourceComment, List.append_assoc, List.append_assoc, SvgTag.opensIn_of_free start,
    SvgTag.opensIn_append ends, SvgTag.opensIn_of_free stop, Payload.constants,
    SvgTag.opensIn_of_free line, SvgTag.opensIn_append (wordEnds_declarationOf _ _),
    opensIn_declarationOf, opensIn_declarationOf, colours]

end

/-- The function opens a tag in front of its root tag exactly if its name does, where the other
fields in it hold no bracket. -/
theorem opensIn_function {payload : Payload}
    (typeFree : '<' ∉ payload.textOf "prop_type".toList)
    (widthFree : '<' ∉ payload.textOf "width".toList)
    (heightFree : '<' ∉ payload.textOf "height".toList)
    (defaultFree : '<' ∉ payload.textOf "height_default".toList) :
    SvgTag.OpensIn payload.function ↔ SvgTag.OpensIn (payload.textOf "component_name".toList) := by
  have start : ¬ SvgTag.OpensIn propertiesStart := by
    refine SvgTag.not_opensIn ?_
    unfold propertiesStart
    repeat rw [String.toList_ofList]
    decide +kernel
  have further : '<' ∉ (if payload.isGiven "prop_type".toList then
      " & ".toList ++ payload.textOf "prop_type".toList else []) := by
    split
    · rw [List.mem_append, not_or]
      exact ⟨by decide, typeFree⟩
    · exact List.not_mem_nil
  have ends : ∀ behind, Text.wordEnds ((if payload.isGiven "prop_type".toList then
      " & ".toList ++ payload.textOf "prop_type".toList else []) ++
        (";\n\n/**\n * ".toList ++ behind)) = true := by
    intro behind
    split <;> rfl
  have body : ¬ SvgTag.OpensIn
      (payload.bindingOf .fill ++ (payload.bindingOf .stroke ++ bodyStart)) := by
    rw [SvgTag.opensIn_of_free (bracket_not_mem_bindingOf payload .fill),
      SvgTag.opensIn_of_free (bracket_not_mem_bindingOf payload .stroke)]
    exact SvgTag.not_opensIn_of_free (by decide)
  simp only [Payload.function, Template.Outline.signature, Template.Outline.write,
    List.append_assoc, List.append_nil]
  rw [SvgTag.opensIn_append (ends _), or_iff_right start, SvgTag.opensIn_of_free further,
    SvgTag.opensIn_of_free (by decide),
    SvgTag.opensIn_append rfl, SvgTag.opensIn_of_free (by decide),
    SvgTag.opensIn_of_free widthFree, SvgTag.opensIn_of_free (by decide),
    SvgTag.opensIn_of_free heightFree, SvgTag.opensIn_of_free (by decide),
    SvgTag.opensIn_append rfl, SvgTag.opensIn_of_free (by decide),
    SvgTag.opensIn_of_free widthFree, SvgTag.opensIn_of_free (by decide),
    SvgTag.opensIn_of_free defaultFree, SvgTag.opensIn_of_free (by decide),
    or_iff_left body, or_self]

/-- The function opens a tag exactly if its name does. -/
theorem opensIn_function_ofIcon (icon : Icon) (componentName : Text) :
    SvgTag.OpensIn (Payload.ofIcon icon componentName).function ↔
      SvgTag.OpensIn componentName := by
  have numeral : ∀ n, '<' ∉ formatDimension n := fun n =>
    (isNumeral_dimension n).not_mem (by decide)
  refine opensIn_function (bracket_not_mem_typeLiteral _ _) (numeral icon.width)
    (numeral icon.height) ?_
  show '<' ∉ Payload.heightDefaultOf icon.isSquare
  cases icon.isSquare <;> decide

/-- Nothing that comes from an icon in front of the root tag opens another one. -/
structure OpensNoTag (icon : Icon) (componentName : Text) : Prop where
  path : ¬ SvgTag.OpensIn (Payload.ofIcon icon componentName).path
  name : ¬ SvgTag.OpensIn componentName
  colours : ¬ icon.OpensInColour

/-! ### The component -/

/-- What the built-in template writes for a payload whose defaults are not empty. -/
theorem exists_render_builtin (solid : ∀ paint, payload.defaultOf paint ≠ some []) :
    ∃ template, Template.builtin = .ok template ∧
      template.render payload = .ok (payload.around componentRoot.print) := by
  obtain ⟨template, rest, front, behind, builtin, parts, headOutlined, nameOutlined⟩ :=
    exists_outlined
  obtain ⟨head, after, frontRendered, behindRendered, rendered⟩ :=
    parts.exists_render (shares_at payload payload.path)
  obtain rfl : head = payload.constants ++ payload.function :=
    (eq_write_of_render headOutlined frontRendered).trans (write_headOutline solid)
  have tail : bodyEnd ++ after = payload.tail := by
    rw [eq_write_of_render nameOutlined behindRendered]
    rfl
  rw [tail] at rendered
  exact ⟨template, builtin, render_behindComment parts.starts rendered⟩

/-- The icon goes into the root tag if nothing in front of it opens one. -/
theorem spliceRoot_around_of_closed
    (closed : ¬ SvgTag.OpensIn (sourceComment payload.path ++ payload.constants))
    (quiet : ¬ SvgTag.OpensIn payload.function) (icon : Text) :
    spliceRoot? (payload.around componentRoot.print) icon =
      some (payload.around (mergeIntoIcon icon componentRoot.itemText)) := by
  have front : ¬ SvgTag.OpensIn (sourceComment payload.path ++ payload.constants ++
      payload.function) := by
    rw [SvgTag.opensIn_append rfl, not_or]
    exact ⟨closed, quiet⟩
  have plain : '>' ∉ componentRoot.itemText := by decide +kernel
  have spliced := spliceRoot_of_not_opensIn front plain payload.tail icon
  simp only [Payload.around, List.append_assoc] at spliced ⊢
  exact spliced

/-- The root tag is left as it is if the comment or a constant opens one. -/
theorem spliceRoot_around_of_opened
    (opened : SvgTag.OpensIn (sourceComment payload.path ++ payload.constants)) (icon : Text) :
    ∃ kept, spliceRoot? (payload.around componentRoot.print) icon =
      some (kept ++ (componentRoot.print ++ payload.tail)) := by
  have bracket : '>' ∈ propertiesStart := by
    unfold propertiesStart
    repeat rw [String.toList_ofList]
    decide
  have ended : '>' ∈ payload.function := by
    rw [Payload.function, Template.Outline.signature, Template.Outline.write]
    exact List.mem_append_left _ (List.mem_append_left _ bracket)
  obtain ⟨kept, spliced⟩ := @spliceRoot_of_opened _ payload.function opened rfl ended
    (componentRoot.print ++ payload.tail) icon
  refine ⟨kept, ?_⟩
  simp only [Payload.around, List.append_assoc] at spliced ⊢
  exact spliced

/-- The root of a component takes every icon. -/
theorem exists_spliceRoot_around (payload : Payload) (icon : Text) :
    ∃ source, spliceRoot? (payload.around componentRoot.print) icon = some source := by
  obtain ⟨-, source, spliced⟩ := exists_spliceRoot
    (sourceComment payload.path ++ (payload.constants ++ payload.function)) payload.tail icon
  rw [List.append_assoc] at spliced
  exact ⟨source, spliced⟩

/-- How the colours of an icon are bound in its component. What is written for each colour fits its
references and stands in front of the root tag. The icon takes the place of the root tag, and
everything else stays, if nothing in front of the root tag opens one (`placed`); the root tag stays
without the icon if the path or a colour opens one (`lost`). -/
structure Binds (template : Template) (icon : Icon) (componentName : Text) : Prop where
  bound : ∀ paint, Bound paint (Occurrences.extract icon.markup paint)
    ((Payload.ofIcon icon componentName).declarationOf paint)
    ((Payload.ofIcon icon componentName).bindingOf paint)
  rendered : template.render (.ofIcon icon componentName) =
    .ok ((Payload.ofIcon icon componentName).around componentRoot.print)
  written : ∃ source, synthesize template icon componentName = .ok source
  placed : OpensNoTag icon componentName → synthesize template icon componentName =
    .ok ((Payload.ofIcon icon componentName).around
      (mergeIntoIcon (Payload.ofIcon icon componentName).svg componentRoot.itemText))
  lost : SvgTag.OpensIn (Payload.ofIcon icon componentName).path ∨ icon.OpensInColour →
    ∃ kept, synthesize template icon componentName =
      .ok (kept ++ (componentRoot.print ++ (Payload.ofIcon icon componentName).tail))

/-- **The colours of every icon are bound in its component**, unless something in front of the root
tag opens another one. -/
theorem builtin_binds (icon : Icon) (componentName : Text) :
    ∃ template, Template.builtin = .ok template ∧ Binds template icon componentName := by
  obtain ⟨template, builtin, rendered⟩ :=
    exists_render_builtin (defaultOf_ofIcon_ne_nil icon componentName)
  have constants := opensIn_constants icon componentName
  have function := opensIn_function_ofIcon icon componentName
  refine ⟨template, builtin, bound_ofIcon icon componentName, rendered, ?_, fun opensNone => ?_,
    fun opened => ?_⟩
  · obtain ⟨source, spliced⟩ := exists_spliceRoot_around (.ofIcon icon componentName) _
    exact ⟨source, Template.write_eq_ok rendered spliced⟩
  · have closed := constants.not.mpr (not_or.mpr ⟨opensNone.path, opensNone.colours⟩)
    have quiet := function.not.mpr opensNone.name
    exact Template.write_eq_ok rendered (spliceRoot_around_of_closed closed quiet _)
  · obtain ⟨kept, spliced⟩ := spliceRoot_around_of_opened (constants.mpr opened) _
    exact ⟨kept, Template.write_eq_ok rendered spliced⟩

/-- An icon with two fills and a stroke. -/
def sunIcon : Icon where
  markup := "<svg><path fill=\"red\" stroke=\"\"/><path fill=\"#fff\"/></svg>".toList
  width := .ofInt .single 1
  height := .ofInt .single 1
  path := "icons/sun.svg".toList

/-- A list for the fills, and an empty text for the stroke. -/
theorem sun_bound :
    OpensNoTag sunIcon "Sun".toList ∧
    (Payload.ofIcon sunIcon "Sun".toList).declarationOf .fill =
      "\nconst DEFAULT_FILL_VALUE = [\"#fff\",\"red\"];\n".toList ∧
    (Payload.ofIcon sunIcon "Sun".toList).declarationOf .stroke =
      "\nconst DEFAULT_STROKE_VALUE = \"\";\n".toList ∧
    (Payload.ofIcon sunIcon "Sun".toList).svg = "<svg><path fill=\x7bfill[1]\x7d ".toList ++
      "stroke=\x7bstroke\x7d/><path fill=\x7bfill[0]\x7d/></svg>".toList ∧
    ∃ template, Template.builtin = .ok template ∧ synthesize template sunIcon "Sun".toList =
      .ok ((Payload.ofIcon sunIcon "Sun".toList).around
        (mergeIntoIcon (Payload.ofIcon sunIcon "Sun".toList).svg componentRoot.itemText)) := by
  have path : '<' ∉ (Payload.ofIcon sunIcon "Sun".toList).path := by decide
  have colours : ∀ paint, ∀ value ∈ (Occurrences.extract sunIcon.markup paint).values,
      '<' ∉ value := by
    decide +kernel
  have opensNone : OpensNoTag sunIcon "Sun".toList :=
    ⟨SvgTag.not_opensIn_of_free path, SvgTag.not_opensIn_of_free (by decide),
      fun ⟨paint, value, member, opened⟩ =>
        SvgTag.not_opensIn_of_free (colours paint value member) opened⟩
  obtain ⟨template, builtin, binds⟩ := builtin_binds sunIcon "Sun".toList
  exact ⟨opensNone, by decide +kernel, by decide +kernel, by decide +kernel, template, builtin,
    binds.placed opensNone⟩

/-- An icon whose colour holds a root tag. -/
def taggedIcon : Icon where
  markup := "<svg><path fill=\"<svg/>\"/></svg>".toList
  width := .ofInt .single 1
  height := .ofInt .single 1
  path := "a.svg".toList

/-- **A colour that holds a root tag is not bound**: its constant receives the icon, with a
reference to the colour in it, and the component's own root tag is left as it is. -/
theorem tag_colour_unbound :
    (Occurrences.extract taggedIcon.markup .fill).default? = some "\"<svg/>\"".toList ∧
    ∃ template source, Template.builtin = .ok template ∧
      synthesize template taggedIcon "A".toList = .ok source ∧
      Text.contains source "DEFAULT_FILL_VALUE = \"<svg><path fill=\x7bfill\x7d/>".toList = true ∧
      Text.contains source componentRoot.print = true ∧
      ¬ PaintAttribute.fill.declaration "\"<svg/>\"".toList <:+: source := by
  obtain ⟨template, builtin, rendered⟩ :=
    exists_render_builtin (defaultOf_ofIcon_ne_nil taggedIcon "A".toList)
  have spliced : (spliceRoot? ((Payload.ofIcon taggedIcon "A".toList).around componentRoot.print)
      (Payload.ofIcon taggedIcon "A".toList).svg).any (fun source =>
        Text.contains source "DEFAULT_FILL_VALUE = \"<svg><path fill=\x7bfill\x7d/>".toList &&
        Text.contains source componentRoot.print &&
        !Text.contains source (PaintAttribute.fill.declaration "\"<svg/>\"".toList)) = true := by
    unfold Payload.around Payload.constants Payload.function Payload.tail Template.Outline.signature
      importLine propertiesStart bodyStart bodyEnd
    repeat rw [String.toList_ofList]
    decide +kernel
  obtain ⟨source, found, checked⟩ := (Option.any_eq_true _ _).mp spliced
  simp only [Bool.and_eq_true, Bool.not_eq_true'] at checked
  exact ⟨by decide +kernel, template, source, builtin, Template.write_eq_ok rendered found, checked.1.1,
    checked.1.2, Text.not_infix_of_contains checked.2⟩

end IconComponents
