/-
**Loading a configuration.**

Settings come in three layers: defaults, the configuration file, and the command line. The file is
searched from the working directory upwards; a run without one is fine. Relative paths of the file
start from its directory, those of the command line from the working directory.

* `findConfig?` — the nearest file of a name;
* `Config.resolve` — the settings of a file seen from its directory;
* `Overrides.apply` — a configuration with the settings of the command line;
* `Config.load` — all layers together.
-/

import IconComponents.Config.Basic
import IconComponents.Outcome
import IconComponents.Text.Blank

namespace IconComponents

/-- The settings that a command line gives, and whether details are printed. -/
structure Overrides where
  entry : Option Text
  output : Option Text
  rewrite : Option Bool
  leading : Option Text
  trailing : Option Text
  extension : Option Text
  template : Option Text
  verbose : Bool
  deriving Repr, DecidableEq

/-- A command line without settings. -/
def Overrides.none : Overrides :=
  { entry := .none, output := .none, rewrite := .none, leading := .none, trailing := .none,
    extension := .none, template := .none, verbose := false }

/-! ### The search -/

/-- The nearest file of a name in a directory or above it. A name that is an absolute path is that
path, if there is anything. -/
def findConfig? (files : FileSystem) (start name : Text) : Option Text :=
  if Path.isAbsolute name then if files.pathExists name then some name else none
  else ((start :: Path.parents start).map fun place => Path.join place name).find? files.isFile

/-! ### Paths -/

/-- A pattern seen from a directory. A blank pattern stays as it is. -/
def resolvePattern (root pattern : Text) : Text :=
  if Text.isBlank pattern || Path.isAbsolute pattern then pattern else Path.join root pattern

/-- A path whose start `~` is the home directory, where that is known. -/
def expandHome (home? : Option Text) (path : Text) : Text :=
  match path, home? with
  | ['~'], some home => home
  | '~' :: '/' :: rest, some home => home ++ '/' :: rest
  | path, _ => path

/-- A template path seen from a directory. -/
def resolveTemplate (files : FileSystem) (home? : Option Text) (root path : Text) : Text :=
  files.absolute (Path.join root (expandHome home? path))

namespace Config

/-- A configuration whose relative paths are seen from a directory. -/
def resolve (files : FileSystem) (home? : Option Text) (root : Text) (config : Config) : Config :=
  { config with
    entry := resolvePattern root config.entry
    output := files.absolute (Path.join root config.output)
    template := config.template.map (resolveTemplate files home? root) }

/-- An extension with a dot at its start; a blank one is the default. -/
def normalizeExtension (extension : Text) : Text :=
  match Text.trim extension with
  | [] => defaultExtension
  | '.' :: rest => '.' :: rest
  | plain => '.' :: plain

end Config

/-- A configuration with the settings of the command line in place of its own. -/
def Overrides.apply (files : FileSystem) (home? : Option Text) (overrides : Overrides)
    (config : Config) : Config :=
  let root := files.currentPath
  { config with
    entry := (overrides.entry.map (resolvePattern root)).getD config.entry
    output := (overrides.output.map fun path => files.absolute (Path.join root path)).getD
      config.output
    template := (overrides.template.map (resolveTemplate files home? root)).or config.template
    rewrite := overrides.rewrite.getD config.rewrite
    leading := overrides.leading.getD config.leading
    trailing := overrides.trailing.getD config.trailing
    extension := overrides.extension.getD config.extension }

namespace Config

/-! ### Layers -/

/-- What is said about names in a file that are no settings. -/
def unknownNames (path : Text) (names : List Text) : List Console.Action :=
  if names.isEmpty then []
  else
    [.message "warning".toList ("unknown fields in ".toList ++ (Path.fileName? path).getD path ++
      ", ignoring: ".toList ++ Text.joinWith ", ".toList names)]

/-- The configuration of a file. -/
def ofFile (files : FileSystem) (home? : Option Text) (path : Text) : Outcome ConfigError Config :=
  match (files.read? path).bind Content.text? with
  | none => .failed files (.unreadable path)
  | some text =>
    match parse text with
    | .error error => .failed files error
    | .ok (config, unknown) =>
      let root := (Path.parent? path).getD files.currentPath
      Outcome.behind (unknownNames path unknown)
        (.done files
          { config.resolve files home? root with configPath := some (files.absolute path) })

/-- The configuration of the nearest file of a name, or the defaults if there is none. -/
def ofNearest (files : FileSystem) (home? : Option Text) (name : Text) :
    Outcome ConfigError Config :=
  match findConfig? files files.currentPath name with
  | some path => ofFile files home? path
  | none => .done files (default.resolve files home? files.currentPath)

/-- The configuration of a run: the nearest file of a name under the settings of the command
line. -/
def load (files : FileSystem) (home? : Option Text) (name : Text) (overrides : Overrides) :
    Outcome ConfigError Config :=
  (ofNearest files home? name).andThen fun files config =>
    let config := overrides.apply files home? config
    Outcome.behind [.setVerbose overrides.verbose]
      (.done files { config with extension := normalizeExtension config.extension })

end Config

end IconComponents
