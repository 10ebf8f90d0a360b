/-
**The configuration file of a new project.**

A new project gets a configuration file that spells out every setting with a comment. Three of
them are filled in: where the icons are, where the components go, and which template is used. Each
is put between double quotes as it is.
-/

import IconComponents.Text.Basic

namespace IconComponents

/-- What a starter configuration is filled in with. -/
structure StarterConfig where
  entry : Text
  output : Text
  template : Text
  deriving Repr, DecidableEq

namespace StarterConfig

/-- The version of the program that writes the file. -/
def version : Text := "0.1.0".toList

/-- The lines of the file, with marks where something is filled in. -/
def lines : List String :=
  ["# icongen configuration file (v__VERSION__)",
   "#",
   "# Every key is optional; command-line flags take precedence.",
   "# Relative paths are resolved against this file's directory.",
   "",
   "# Glob pattern selecting the SVG icons to convert.",
   "entry = \"__ENTRY__\"",
   "",
   "# Directory receiving the generated components.",
   "output = \"__OUTPUT__\"",
   "",
   "# Regenerate components that already exist in `output`.",
   "rewrite = false",
   "",
   "# Decoration around the title-cased icon name: <prefix>TimeFast<postfix>.",
   "prefix = \"\"",
   "postfix = \"\"",
   "",
   "# Suffix of generated files.",
   "extension = \".tsx\"",
   "",
   "# Handlebars template for one component.",
   "template = \"__TEMPLATE__\""]

/-- The text of the file, with its marks. -/
def blank : Text := lines.flatMap fun line => line.toList ++ ['\n']

/-- The text of the file. The marks are filled in one after the other, also those that came with an
earlier filling. -/
def render (starter : StarterConfig) : Text :=
  let withVersion := Text.replaceAll "__VERSION__".toList version blank
  let withEntry := Text.replaceAll "__ENTRY__".toList starter.entry withVersion
  let withOutput := Text.replaceAll "__OUTPUT__".toList starter.output withEntry
  Text.replaceAll "__TEMPLATE__".toList starter.template withOutput

end StarterConfig

end IconComponents
