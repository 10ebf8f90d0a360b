/-
**Configuration.**

What is generated from which icons is a handful of settings, each with a default. A configuration
file gives some of them; settings that it does not know are left out of account, and settings of
the wrong kind are an error.

* `Config` — the settings, `Config.default` — their defaults;
* `Config.parse` — the configuration written in a file, and the names it gives besides.
-/

import IconComponents.Toml.Reader

namespace IconComponents

/-- What to generate from which icons. The configuration file (`configPath`) may be absent, and
without a `template` the built-in one is used. The pattern `entry` selects icon files, the directory
`output` receives the components, and `rewrite` has those generated again that exist. The names of
components start with `leading` and end in `trailing`, and the names of their files end in
`extension`. -/
structure Config where
  configPath : Option Text
  entry : Text
  output : Text
  rewrite : Bool
  leading : Text
  trailing : Text
  extension : Text
  template : Option Text
  deriving Repr, DecidableEq

/-- Why there is no configuration: the file cannot be read, or it is not well formed or has a
setting of the wrong kind. -/
inductive ConfigError where
  | unreadable (path : Text)
  | malformed
  deriving Repr, DecidableEq

/-- The error in words. -/
def ConfigError.message : ConfigError → Text
  | unreadable path => "IO error when reading `".toList ++ path ++ ['`']
  | malformed => "Config file parsing error".toList

namespace Config

/-- The extension of generated files, unless another one is set. -/
def defaultExtension : Text := ".tsx".toList

/-- The configuration without any setting. -/
def default : Config := ⟨none, [], [], false, [], [], defaultExtension, none⟩

/-- The name of a setting. -/
inductive Setting where
  | entry
  | output
  | rewrite
  | leading
  | trailing
  | extension
  | template
  deriving Repr, DecidableEq

/-- The settings by their names in a configuration file. -/
def settings : List (Text × Setting) :=
  [("entry".toList, .entry), ("output".toList, .output), ("rewrite".toList, .rewrite),
    ("prefix".toList, .leading), ("postfix".toList, .trailing),
    ("extension".toList, .extension), ("template".toList, .template)]

/-- The configuration with one setting taken from a document. -/
def set? (config : Config) : Setting → Toml.Kind → Option Config
  | .entry, .value (.text words) => some { config with entry := words }
  | .output, .value (.text words) => some { config with output := words }
  | .rewrite, .value (.flag on) => some { config with rewrite := on }
  | .leading, .value (.text words) => some { config with leading := words }
  | .trailing, .value (.text words) => some { config with trailing := words }
  | .extension, .value (.text words) => some { config with extension := words }
  | .template, .value (.text words) => some { config with template := some words }
  | _, _ => none

/-- The configuration that a list of nodes gives, and the names that are no settings. -/
def ofNodes? (config : Config) : List (Text × Toml.Kind) → Option (Config × List Text)
  | [] => some (config, [])
  | (name, kind) :: nodes =>
    match settings.lookup name with
    | none => (config.ofNodes? nodes).map fun (config, unknown) => (config, name :: unknown)
    | some setting => (config.set? setting kind).bind fun config => config.ofNodes? nodes

/-- The configuration that a text gives, and the names in it that are no settings. -/
def parse (text : Text) : Except ConfigError (Config × List Text) :=
  match (Toml.read? text).bind fun document => default.ofNodes? document.settings with
  | some found => .ok found
  | none => .error .malformed

end Config

end IconComponents
