/-
**Minification.**

A file is minified by drawing it and writing the drawing anew. The colour that surrounds an icon is
masked before and turned back after, since a drawing knows only colours that are numbers. A file that
is no text is drawn as it is, since no text is there to mask a colour in.

* `Engines.minify` — the icon that a file holds;
* `Icon.minify` — the same with the standard engines.
-/

import IconComponents.Engines
import IconComponents.Icon
import IconComponents.Markup.CurrentColor
import IconComponents.Markup.ViewBox

namespace IconComponents

/-- The icon of a drawing: every identifier gets `common` in front of it, and `restore` turns the
written document into the markup. -/
def Icon.ofDrawn (drawn : Drawn) (path common : Text) (restore : Text → Text) : Icon :=
  let markup := ensureViewBox (restore (drawn.written common)) drawn.width drawn.height
  ⟨markup, drawn.width, drawn.height, path⟩

/-- The icon that a file holds. -/
def Engines.minify (engines : Engines) (content : Content) (path common : Text) :
    Except MinifyError Icon :=
  match content.text?.bind mask? with
  | some (masked, color) => do
    let drawn ← engines.draw (.text masked)
    return .ofDrawn drawn path common (unmask color)
  | none => do
    let drawn ← engines.draw content
    return .ofDrawn drawn path common id

/-- The icon that a file holds, with the standard engines. -/
def Icon.minify : Content → Text → Text → Except MinifyError Icon := Engines.standard.minify

end IconComponents
