/-
**Rendering a template.**

Fields are written as they are, without escaping. A field that does not exist is an error, except
as a parameter, where it is nothing. Of the helpers `if` and `unless` are understood here, which is
what the built-in template needs; a call of any other helper is an error, and so is every template
but the one that is rendered. `Engines` takes templates from whoever understands more.

* `RenderError` — what can go wrong, and in which tag;
* `Call.takesBody` — the decision of a helper;
* `Template.render` — the text of a template for a payload.
-/

import IconComponents.Component.Payload
import IconComponents.Template.Basic
import IconComponents.Text.Printable

namespace IconComponents

/-- The name of the template that is rendered. -/
def templateName : Text := "icon".toList

/-- Why a tag cannot be rendered. -/
inductive RenderError.Cause where
  | unknownField (written : Text)
  | unknownHelper (name : Text)
  | missingCondition
  | unknownPartial (name : Text)
  | selfInclusion
  deriving Repr, DecidableEq

/-- A tag that cannot be rendered, where it starts, and why. -/
structure RenderError where
  position : Position
  cause : RenderError.Cause
  deriving Repr, DecidableEq

namespace RenderError

/-- The cause in words. -/
def Cause.message : Cause → Text
  | unknownField written =>
    "Failed to access variable in strict mode Some(".toList ++ Text.display written ++ [')']
  | unknownHelper name => "Helper not found ".toList ++ name
  | missingCondition => "Helper/Decorator if param at index 0 required but not found".toList
  | unknownPartial name => "Partial not found ".toList ++ name
  | selfInclusion => "Can not include current template in partial".toList

/-- The error in words. -/
def message (error : RenderError) : Text :=
  "Error rendering ".toList ++ Text.display templateName ++ " line ".toList ++
    Text.ofNat error.position.line ++ ", col ".toList ++ Text.ofNat error.position.column ++
    ": ".toList ++ error.cause.message

end RenderError

/-! ### Fields and conditions -/

/-- What a condition can tell of a field. -/
def FieldValue.condition : FieldValue → Condition
  | null => .null
  | flag value => .flag value
  | text value => .collection value.isEmpty

/-- The value that a reference leads to. Fields have no parts; the payload as a whole is written as
`[object]`. -/
def Payload.resolve (payload : Payload) (reference : Reference) : Option FieldValue :=
  if reference.isLocal then none
  else
    match reference.names with
    | [] => some (.text "[object]".toList)
    | [name] => payload.field? name
    | _ => none

/-- What a condition can tell of the value that a reference leads to; of none it is nothing. -/
def Payload.condition (payload : Payload) (reference : Reference) : Condition :=
  ((payload.resolve reference).map FieldValue.condition).getD .null

/-! ### Helpers -/

/-- What a helper is given: the values in their places, and those given by name. -/
structure Given where
  placed : List Condition
  named : List (Text × Condition)
  deriving Repr, DecidableEq

namespace Given

/-- Entries by name, each name once: a later value takes the place of an earlier one. -/
def lastByName {α : Type} (entries : List (Text × α)) : List (Text × α) :=
  entries.foldr (fun entry later =>
    if later.any (·.1 == entry.1) then later else entry :: later) []

/-- What a helper is given if all values can be found; those in their places are looked for
first. -/
def ofOutcomes (outcomes : List (Option Text × Except RenderError.Cause Condition)) :
    Except RenderError.Cause Given := do
  let placed := outcomes.filterMap fun (name, outcome) =>
    if name.isNone then some outcome else none
  let named := outcomes.filterMap fun (name, outcome) => name.map (·, outcome)
  let placed ← placed.mapM id
  let named ← (lastByName named).mapM fun (name, outcome) => do
    let value ← outcome
    return (name, value)
  return ⟨placed, named⟩

/-- Whether zero fulfils a condition. -/
def zeroCounts (given : Given) : Bool :=
  given.named.lookup "includeZero".toList == some (.flag true)

/-- Whether a helper takes its body: `if` when the first value holds, `unless` when it does not. -/
def takesBody (given : Given) (helper : Text) : Except RenderError.Cause Bool :=
  let isPlain := helper = "if".toList
  if isPlain || helper = "unless".toList then
    match given.placed with
    | [] => .error .missingCondition
    | condition :: _ => .ok (condition.holds given.zeroCounts == isPlain)
  else .error (.unknownHelper helper)

end Given

mutual

/-- What a condition can tell of an argument. An inner call has no body, so it writes nothing. -/
def Argument.condition (payload : Payload) : Argument → Except RenderError.Cause Condition
  | .literal literal => .ok literal.value
  | .field reference => .ok (payload.condition reference)
  | .call helper parameters => do
    let given ← Given.ofOutcomes (parameters.outcomes payload)
    let _ ← given.takesBody helper
    .ok (.collection true)

/-- What conditions can tell of parameters, each on its own. -/
def Parameters.outcomes (payload : Payload) :
    Parameters → List (Option Text × Except RenderError.Cause Condition)
  | .done => []
  | .more name argument others => (name, argument.condition payload) :: others.outcomes payload

end

/-- What the parameters give to a helper. -/
def Parameters.given (payload : Payload) (parameters : Parameters) :
    Except RenderError.Cause Given :=
  Given.ofOutcomes (parameters.outcomes payload)

/-- Which branch a helper takes. -/
def Call.takesBody (call : Call) (payload : Payload) : Except RenderError.Cause Bool := do
  let given ← call.parameters.given payload
  given.takesBody call.helper

/-- Why a template cannot be included. -/
def inclusionError (payload : Payload) (name : Text) (parameters : Parameters) :
    RenderError.Cause :=
  match parameters.given payload with
  | .error cause => cause
  | .ok _ => if name = templateName then .selfInclusion else .unknownPartial name

namespace Template

/-- The text of a template for a payload. -/
def render (payload : Payload) : Template → Except RenderError Text
  | done => .ok []
  | text words rest => do
    let behind ← rest.render payload
    .ok (words ++ behind)
  | field position reference rest =>
    match payload.resolve reference with
    | none => .error ⟨position, .unknownField reference.written⟩
    | some value => do
      let behind ← rest.render payload
      .ok (value.written ++ behind)
  | call position helper rest =>
    match helper.takesBody payload with
    | .error cause => .error ⟨position, cause⟩
    | .ok _ => rest.render payload
  | inclusion position name parameters _ =>
    .error ⟨position, inclusionError payload name parameters⟩
  | block position helper body alternative rest =>
    match helper.takesBody payload with
    | .error cause => .error ⟨position, cause⟩
    | .ok takesBody => do
      let chosen ← if takesBody then body.render payload else alternative.render payload
      let behind ← rest.render payload
      .ok (chosen ++ behind)

end Template

end IconComponents
