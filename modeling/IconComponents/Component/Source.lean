/-
**The source of a component.**

A component's source is its template rendered for its payload, with the icon spliced into the root.

* `ComponentError` — why there is no source;
* `Engines.ofSource`, `Engines.builtin` — a template ready to be used;
* `Engines.write` — the source for a payload;
* `Engines.synthesize` — the source for an icon under a component name;
* `Template.ofSource`, `Template.builtin`, `Template.write`, `synthesize` — the same with the
  standard engines.
-/

import IconComponents.Engines
import IconComponents.Template.Builtin
import IconComponents.Template.Splice

namespace IconComponents

/-- Why a component has no source: its template is not well formed, or cannot be rendered, the reason
coming in words, or what it renders has no root. -/
inductive ComponentError where
  | malformedTemplate
  | unrendered (words : Text)
  | noRoot (component : Text)
  deriving Repr, DecidableEq

/-- The error in words. -/
def ComponentError.message : ComponentError → Text
  | malformedTemplate => "icon template error: Template error".toList
  | unrendered words => "icon template error: ".toList ++ words
  | noRoot component =>
    "template output for `".toList ++ component ++ "` has no root <svg> element".toList

namespace Engines

variable (engines : Engines)

/-- The template that a text writes. -/
def ofSource (source : Text) : Except ComponentError engines.Template :=
  match engines.compile? source with
  | some template => .ok template
  | none => .error .malformedTemplate

/-- The built-in template. -/
def builtin : Except ComponentError engines.Template := engines.ofSource builtinSource

/-- The source of a component. -/
def write (template : engines.Template) (payload : Payload) : Except ComponentError Text :=
  match engines.render template payload with
  | .error words => .error (.unrendered words)
  | .ok rendered =>
    match spliceRoot? rendered payload.svg with
    | some source => .ok source
    | none => .error (.noRoot payload.componentName)

/-- The source of an icon's component. -/
def synthesize (template : engines.Template) (icon : Icon) (componentName : Text) :
    Except ComponentError Text :=
  engines.write template (.ofIcon icon componentName)

variable {engines} {source text : Text} {payload : Payload}

theorem ofSource_eq_ok_iff {template : engines.Template} :
    engines.ofSource source = .ok template ↔ engines.compile? source = some template := by
  unfold ofSource
  cases engines.compile? source <;> simp

theorem write_eq_ok_iff {template : engines.Template} :
    engines.write template payload = .ok source ↔
      ∃ rendered, engines.render template payload = .ok rendered ∧
        spliceRoot? rendered payload.svg = some source := by
  unfold write
  cases engines.render template payload with
  | error words => simp
  | ok rendered => cases spliced : spliceRoot? rendered payload.svg <;> simp [spliced]

end Engines

namespace Template

/-- The template that a text writes. -/
def ofSource : Text → Except ComponentError Template := Engines.standard.ofSource

/-- The built-in template. -/
def builtin : Except ComponentError Template := Engines.standard.builtin

/-- The source of a component. -/
def write : Template → Payload → Except ComponentError Text := Engines.standard.write

theorem ofSource_eq_ok {source : Text} {template : Template} :
    ofSource source = .ok template ↔ parse? source = some template :=
  @Engines.ofSource_eq_ok_iff .standard source template

theorem write_eq_ok {payload : Payload} {text source : Text} {template : Template}
    (rendered : template.render payload = .ok text)
    (spliced : spliceRoot? text payload.svg = some source) : template.write payload = .ok source :=
  (@Engines.write_eq_ok_iff .standard source payload template).mpr
    ⟨text, congrArg (Except.mapError RenderError.message) rendered, spliced⟩

end Template

/-- The source of an icon's component, with the standard engines. -/
def synthesize : Template → Icon → Text → Except ComponentError Text := Engines.standard.synthesize

end IconComponents
