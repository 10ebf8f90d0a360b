/-
**The outline of a template.**

A plain template writes words and fields, some of them only if a field is given. Its outline leaves
out where the tags stand and how they are written, and says what comes out.

* `Template.Outline`, `Template.Outline.write` — an outline, and what is written for a payload;
* `Template.outline?` — the outline of a template, if it is as plain as that;
* `eq_write_of_render` — a template writes what its outline does.
-/

import IconComponents.Proofs.Template.Rendering

namespace IconComponents

/-- An outline, element by element: words that are written as they are, a field, or what is written
only if a field is given. -/
inductive Template.Outline where
  | done
  | words (text : Text) (rest : Template.Outline)
  | field (name : Text) (rest : Template.Outline)
  | whenGiven (name : Text) (body rest : Template.Outline)
  deriving DecidableEq

variable {payload : Payload}

/-! ### What an outline writes -/

/-- The text of a field; of a field that does not exist it is nothing. -/
def Payload.textOf (payload : Payload) (name : Text) : Text :=
  ((payload.field? name).map FieldValue.written).getD []

/-- Whether a field is given: it is a text that is not empty, or a yes. -/
def Payload.isGiven (payload : Payload) (name : Text) : Bool :=
  (((payload.field? name).map FieldValue.condition).getD .null).holds false

/-- What an outline writes for a payload. -/
def Template.Outline.write (payload : Payload) : Template.Outline → Text
  | done => []
  | words spelled rest => spelled ++ rest.write payload
  | field name rest => payload.textOf name ++ rest.write payload
  | whenGiven name body rest =>
    (if payload.isGiven name then body.write payload else []) ++ rest.write payload

/-! ### Outlines of templates -/

/-- The field that a reference leads to, if it names one and nothing else. -/
def Reference.fieldName? : Reference → Option Text
  | ⟨_, false, [name]⟩ => some name
  | _ => none

/-- The field that a condition asks for. -/
def Call.givenName? : Call → Option Text
  | ⟨helper, .more none (.field reference) .done⟩ =>
    if helper = "if".toList then reference.fieldName? else none
  | _ => none

/-- The outline of a template of texts, fields, and conditions without an alternative. -/
def Template.outline? : Template → Option Template.Outline
  | done => some .done
  | text words rest => do
    let others ← rest.outline?
    return .words words others
  | field _ reference rest => do
    let name ← reference.fieldName?
    let others ← rest.outline?
    return .field name others
  | block _ helper body done rest => do
    let name ← helper.givenName?
    let inner ← body.outline?
    let others ← rest.outline?
    return .whenGiven name inner others
  | _ => none

/-- A reference to a field has its value. -/
theorem resolve_of_fieldName? {reference : Reference} {name : Text}
    (named : reference.fieldName? = some name) :
    payload.resolve reference = payload.field? name := by
  unfold Reference.fieldName? at named
  split at named
  · cases named
    rfl
  · cases named

/-- A block that asks for a field takes its body if the field is given. -/
theorem takesBody_of_givenName? {call : Call} {name : Text}
    (asked : call.givenName? = some name) :
    call.takesBody payload = .ok (payload.isGiven name) := by
  unfold Call.givenName? at asked
  split at asked
  · split at asked
    · next isIf =>
      subst isIf
      rw [takesBody_if, Payload.condition, resolve_of_fieldName? asked, Payload.isGiven]
    · cases asked
  · cases asked

/-- **A template writes what its outline does.** -/
theorem eq_write_of_render {template : Template} {outline : Template.Outline} {text : Text}
    (outlined : template.outline? = some outline) (rendered : template.render payload = .ok text) :
    text = outline.write payload := by
  induction template generalizing outline text with
  | done =>
    cases outlined
    cases rendered
    rfl
  | text words rest ih =>
    simp only [Template.outline?, Option.bind_eq_bind, Option.bind_eq_some_iff] at outlined
    obtain ⟨others, restOutlined, same⟩ := outlined
    cases same
    obtain ⟨behind, restRendered, rfl⟩ := render_text_eq_ok_iff.mp rendered
    rw [ih restOutlined restRendered, Template.Outline.write]
  | field position reference rest ih =>
    simp only [Template.outline?, Option.bind_eq_bind, Option.bind_eq_some_iff] at outlined
    obtain ⟨name, named, others, restOutlined, same⟩ := outlined
    cases same
    obtain ⟨value, behind, found, restRendered, rfl⟩ := render_field_eq_ok_iff.mp rendered
    rw [resolve_of_fieldName? named] at found
    rw [ih restOutlined restRendered, Template.Outline.write, Payload.textOf, found]
    rfl
  | call position helper rest ih => cases outlined
  | inclusion position name parameters rest ih => cases outlined
  | block position helper body alternative rest ihBody _ ihRest =>
    cases alternative with
    | done =>
      simp only [Template.outline?, Option.bind_eq_bind, Option.bind_eq_some_iff] at outlined
      obtain ⟨name, asked, inner, bodyOutlined, others, restOutlined, same⟩ := outlined
      cases same
      obtain ⟨taken, chosen, behind, decided, branch, restRendered, rfl⟩ :=
        render_block_eq_ok_iff.mp rendered
      rw [takesBody_of_givenName? asked] at decided
      cases decided
      rw [ihRest restOutlined restRendered, Template.Outline.write]
      cases given : payload.isGiven name with
      | true =>
        rw [given] at branch
        rw [ihBody bodyOutlined branch]
        rfl
      | false =>
        rw [given] at branch
        cases branch
        rfl
    | _ => cases outlined

end IconComponents
