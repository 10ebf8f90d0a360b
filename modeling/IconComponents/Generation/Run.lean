/-
**A run of the generator.**

A run takes the icons that a pattern selects, in the order of their paths, and writes one component
for each. An icon whose component is there already is skipped, unless components are to be
generated again; a component that was written in this run is there from then on. The first error
ends the run, and what was written until then stays.

* `selectIcons` — the icon files of a pattern;
* `takenNames` — the names that a directory has files for;
* `Engines.generateIcon`, `Engines.generateAll` — one icon, and icons one after the other;
* `Engines.generate` — a whole run; `generate` is one with the standard engines.
-/

import IconComponents.Config.Basic
import IconComponents.Generation.Write
import IconComponents.Glob.Expand
import IconComponents.Markup.DashedName
import IconComponents.Minify
import IconComponents.Name.Component

namespace IconComponents

/-- What a run has done: the files that were written, and the names of the components that were
there already, in order. -/
structure Summary where
  generated : List Text
  skipped : List Text
  deriving Repr, DecidableEq

namespace Generation

/-! ### Before the first icon -/

/-- The icon files of a pattern, in the order of their paths. -/
def selectIcons (files : FileSystem) (entry : Text) : Except GenerationError (List Text) :=
  match PathPattern.parse entry with
  | .ok pattern => .ok (Path.sort ((files.expand pattern).filter files.isFile))
  | .error flaw => .error (.malformedEntry entry flaw)

/-- The names that a directory has files for: what stands before the first dot of the file names. -/
def takenNames (files : FileSystem) (output : Text) : List Text :=
  match files.locate output with
  | .error _ => []
  | .ok location =>
    let names := (files.names location).filter fun name =>
      (files.entry? (location ++ [name])).any (· != .directory)
    names.map (Text.upTo '.')

/-! ### Messages -/

/-- A message of the generator. -/
def say (words : Text) : Console.Action := .message "generate".toList words

/-- A detail of the generator. -/
def tell (words : Text) : Console.Action := .detail "generate".toList words

/-- A warning about a name that is no identifier. -/
def nameWarning (name : Text) : List Console.Action :=
  if Name.isIdentifier name then []
  else [.message "warning".toList (name ++ " is not a valid component identifier".toList)]

/-- The attributes of an icon that get other names. -/
def dashedDetail (name : Text) (icon : Icon) : List Console.Action :=
  match dashedNames icon.markup with
  | [] => []
  | names => [tell (name ++ ": camelCase ".toList ++ Text.joinWith ", ".toList names)]

/-- What a run says at its end. -/
def summaryText (summary : Summary) : Text :=
  "done: ".toList ++ Text.ofNat summary.generated.length ++ " generated, ".toList ++
    Text.ofNat summary.skipped.length ++ " skipped".toList

/-- Work with a counter. If the work fails, the counter is taken away. -/
def counted (total : Nat) (work : Outcome GenerationError Summary) :
    Outcome GenerationError Summary :=
  let ending := match work.result with
    | .error _ => [.drop]
    | .ok summary => [.finish, say (summaryText summary)]
  { work with actions := .start "icons".toList total :: work.actions ++ ending }

end Generation

namespace Engines

open Generation

variable (engines : Engines)

/-! ### One icon -/

/-- What the identifiers inside the icon of a component start with. -/
def idStart (name : Text) : Text := Name.kebabCaseBy engines.spell name ++ ['-']

/-- The component name of an icon file under a configuration. -/
def componentName (config : Config) (path : Text) : Text :=
  Name.ofPathBy engines.spell path config.leading config.trailing

/-- The template of a run: the configured one, or else the built-in one. -/
def loadTemplate (files : FileSystem) (path? : Option Text) :
    Except GenerationError engines.Template :=
  match path? with
  | none => engines.builtin.mapError .noSource
  | some path =>
    match (files.read? path).bind Content.text? with
    | some source => (engines.ofSource source).mapError .noSource
    | none => .error (.file (.templateUnread path))

/-- Generate the component of one icon; the result is the path of its file. -/
def generateIcon (config : Config) (template : engines.Template) (files : FileSystem)
    (path name : Text) : Outcome GenerationError Text :=
  match files.read? path with
  | none => .failed files (.file (.unread path))
  | some content =>
    match engines.minify content path (engines.idStart name) with
    | .error cause => .failed files (.notAnIcon path cause)
    | .ok icon =>
      Outcome.behind (dashedDetail name icon)
        (match engines.synthesize template icon name with
        | .error cause => .failed files (.noSource cause)
        | .ok source =>
          (writeComponent files config.output name config.extension source).mapError .file)

/-! ### All icons -/

/-- Generate the components of icons one after the other; `taken` are the names that are there. -/
def generateAll (config : Config) (template : engines.Template) :
    List Text → List Text → FileSystem → Outcome GenerationError Summary
  | [], _, files => .done files ⟨[], []⟩
  | path :: others, taken, files =>
    let name := engines.componentName config path
    if !config.rewrite && taken.elem name then
      Outcome.behind
        (nameWarning name ++
          [tell ("skip ".toList ++ name ++ " (already exists)".toList), .advance])
        ((generateAll config template others taken files).map fun summary =>
          { summary with skipped := name :: summary.skipped })
    else
      Outcome.behind (nameWarning name ++ [tell ("processing ".toList ++ name)])
        ((engines.generateIcon config template files path name).andThen fun files written =>
          Outcome.behind [.advance]
            ((generateAll config template others (name :: taken) files).map fun summary =>
              { summary with generated := written :: summary.generated }))

/-- Generate the components of selected icons. -/
def generateSelected (config : Config) (files : FileSystem) (icons : List Text) :
    Outcome GenerationError Summary :=
  if icons.isEmpty then
    Outcome.behind [say "no svg files matched".toList] (.done files ⟨[], []⟩)
  else
    match engines.loadTemplate files config.template with
    | .error error => .failed files error
    | .ok template =>
      counted icons.length
        (engines.generateAll config template icons (takenNames files config.output) files)

/-- Generate a component for every icon that the configuration selects. -/
def generate (config : Config) (files : FileSystem) : Outcome GenerationError Summary :=
  if Text.isBlank config.entry then .failed files .noEntry
  else
    Outcome.behind [say ("looking for svgs in ".toList ++ config.entry)]
      (match selectIcons files config.entry with
      | .error error => .failed files error
      | .ok icons => engines.generateSelected config files icons)

end Engines

/-- What the identifiers inside the icon of a component start with, after transliteration. -/
def Generation.idStart : Text → Text := Engines.standard.idStart

/-- Generate a component for every icon that the configuration selects, with the standard engines. -/
def generate : Config → FileSystem → Outcome GenerationError Summary := Engines.standard.generate

end IconComponents
