/-
**What is left to others.**

Three parts of the work are left to others: names are spelled in ASCII, files are drawn, and templates
are compiled and rendered. Whoever does this work is an argument of all that follows, so that what is
said of a run holds whoever does it. The library brings one of each along, which is enough for plain
icons and templates.

* `Drawn` — a file that was drawn;
* `Engines` — those who do the work;
* `Engines.standard` — those that the library brings along.
-/

import IconComponents.Component.Payload
import IconComponents.Svg.Document
import IconComponents.Svg.Printer
import IconComponents.Template.Render
import IconComponents.Text.Transliteration

namespace IconComponents

/-- A file that was drawn: its size in pixels, and the document that is written of it, in which all
identifiers have a common start. -/
structure Drawn where
  width : Single
  height : Single
  written : Text → Text

/-- The drawing of a picture. -/
def Drawn.ofPicture (picture : Svg.Picture) : Drawn :=
  ⟨picture.width, picture.height, fun common => picture.text common⟩

/-- Those who spell a text in ASCII, who draw a content, who compile the text of a template, and who
render a template for a payload. There is some template, and errors of rendering come in words. -/
structure Engines where
  spell : Text → Text
  draw : Content → Except MinifyError Drawn
  Template : Type
  nonempty : Nonempty Template
  compile? : Text → Option Template
  render : Template → Payload → Except Text Text

/-- Those that the library brings along. -/
def Engines.standard : Engines where
  spell := Text.transliterate
  draw content := (Svg.Picture.ofContent content).map Drawn.ofPicture
  Template := IconComponents.Template
  nonempty := ⟨.done⟩
  compile? := IconComponents.Template.parse?
  render template payload := (template.render payload).mapError RenderError.message

end IconComponents
