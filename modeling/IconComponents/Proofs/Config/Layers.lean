/-
**Layers of settings.**

A setting of a loaded configuration is the one of the command line, or else the one of the nearest
file, or else the default. A path of the command line is seen from the working directory and a path
of the file from the directory that the file lies in. Each setting of the result depends on its own
layers alone: a key of the file that the command line overrides has no influence on it, and neither
have the flags of other settings.

* `FileLayer` — the nearest file and what it gives, if it is a configuration;
* `Layered` — each setting by its layers;
* `KeepsPaths` — paths that do not depend on where they are seen from;
* `IsSettled` — the paths and the extension of a configuration that was loaded;
* `load_layers` — what is loaded, and what it does not depend on.
-/

import IconComponents.Proofs.Config.Load
import IconComponents.Proofs.Config.Settings
import IconComponents.Proofs.FileSystem.Below
import IconComponents.Proofs.FileSystem.Skeleton
import IconComponents.Proofs.Text.Blank

namespace IconComponents

open FileSystem
open Toml (Value Document)

/-- The value that a command line gives to a setting. -/
def Overrides.value? (overrides : Overrides) : Config.Setting → Option Value
  | .entry => overrides.entry.map .text
  | .output => overrides.output.map .text
  | .rewrite => overrides.rewrite.map .flag
  | .leading => overrides.leading.map .text
  | .trailing => overrides.trailing.map .text
  | .extension => overrides.extension.map .text
  | .template => overrides.template.map .text

namespace Config

variable {files other : FileSystem} {home? path? other? : Option Text}
  {name root path text home rest : Text} {overrides : Overrides}
  {given given' : Setting → Option Value} {config config' : Config} {setting : Setting}
  {value : Value}

/-! ### Values -/

/-- The value of a setting that is seen from a directory. -/
def seenFrom (files : FileSystem) (home? : Option Text) (root : Text) : Setting → Value → Value
  | .entry, .text pattern => .text (resolvePattern root pattern)
  | .output, .text path => .text (files.absolute (Path.join root path))
  | .template, .text path => .text (resolveTemplate files home? root path)
  | _, value => value

/-- The value that a setting ends up with: an extension is normalized. -/
def settled : Setting → Value → Value
  | .extension, .text words => .text (normalizeExtension words)
  | _, value => value

/-- A resolved configuration has each value as seen from its directory. -/
theorem value?_resolve (files : FileSystem) (home? : Option Text) (root : Text) (config : Config)
    (setting : Setting) :
    (config.resolve files home? root).value? setting =
      (config.value? setting).map (seenFrom files home? root setting) := by
  cases setting
  case template =>
    rw [value?, value?, resolve, Option.map_map, Option.map_map]
    rfl
  all_goals rfl

/-- Overrides go over the values that are there, as seen from the working directory. -/
theorem value?_apply (files : FileSystem) (home? : Option Text) (overrides : Overrides)
    (config : Config) (setting : Setting) :
    (overrides.apply files home? config).value? setting =
      ((overrides.value? setting).map (seenFrom files home? files.currentPath setting)).or
        (config.value? setting) := by
  obtain ⟨entry, output, rewrite, leading, trailing, extension, template, verbose⟩ := overrides
  cases setting
  case entry => cases entry <;> rfl
  case output => cases output <;> rfl
  case rewrite => cases rewrite <;> rfl
  case leading => cases leading <;> rfl
  case trailing => cases trailing <;> rfl
  case extension => cases extension <;> rfl
  case template => cases template <;> rfl

theorem value?_normalized (config : Config) (setting : Setting) :
    { config with extension := normalizeExtension config.extension }.value? setting =
      (config.value? setting).map (settled setting) := by
  cases setting
  case template =>
    rw [value?, value?, Option.map_map]
    rfl
  all_goals rfl

/-! ### The file -/

/-- **The nearest file and what it gives**: there is none, or it is found and its text is a document
whose settings have values that fit. -/
inductive FileLayer (files : FileSystem) (name : Text) :
    Option Text → (Setting → Option Value) → Prop where
  | absent (missing : findConfig? files files.currentPath name = none) :
      FileLayer files name none fun _ => none
  | found {path text : Text} {document : Document}
      (nearest : findConfig? files files.currentPath name = some path)
      (read : (files.read? path).bind Content.text? = some text)
      (written : Toml.read? text = some document) (fit : HasFitting document) :
      FileLayer files name (some path) (givenBy document)

/-- The directory that the paths of the file are seen from: the one that the file lies in, and
without a file the working directory. -/
def rootOf (files : FileSystem) (path? : Option Text) : Text :=
  (path?.bind Path.parent?).getD files.currentPath

/-- The lower layers: the file over the defaults. -/
theorem ofNearest_of_fileLayer (home? : Option Text) (layer : FileLayer files name path? given) :
    ∃ before, (ofNearest files home? name).result = .ok before ∧
      (ofNearest files home? name).files = files ∧
      before.configPath = path?.map files.absolute ∧ ∀ setting, before.value? setting =
        ((given setting).or (default.value? setting)).map
          (seenFrom files home? (rootOf files path?) setting) := by
  cases layer with
  | absent missing =>
    rw [ofNearest, missing]
    exact ⟨_, rfl, rfl, rfl, value?_resolve files home? _ default⟩
  | @found path text document nearest read written fit =>
    obtain ⟨config, unknown, parsed⟩ := parse_of_hasFitting written fit
    obtain ⟨document', read', -, -, values⟩ := parse_eq_ok parsed
    rw [written] at read'
    cases read'
    rw [ofNearest, nearest]
    simp only [ofFile, read, parsed]
    refine ⟨_, rfl, rfl, rfl, fun setting => ?_⟩
    rw [← values setting]
    exact value?_resolve files home? _ config setting

/-- What is loaded has a file layer. -/
theorem fileLayer_of_load (loaded : (load files home? name overrides).result = .ok config) :
    ∃ path? given, FileLayer files name path? given := by
  obtain ⟨before, nearest, -⟩ := load_eq_ok loaded
  unfold ofNearest at nearest
  split at nearest
  · next path found =>
    unfold ofFile at nearest
    split at nearest
    · cases nearest
    · next text read =>
      split at nearest
      · cases nearest
      · next parsed =>
        obtain ⟨document, written, fit, -⟩ := parse_eq_ok parsed
        exact ⟨_, _, .found found read written fit⟩
  · next missing => exact ⟨_, _, .absent missing⟩

/-! ### Layers -/

/-- **Each setting by its layers**: the command line's value seen from the working directory, or else
the file's value, or else the default, seen from the directory of the file. -/
structure Layered (files : FileSystem) (home? path? : Option Text)
    (given : Setting → Option Value) (overrides : Overrides) (config : Config) : Prop where
  configPath : config.configPath = path?.map files.absolute
  value : ∀ setting, config.value? setting =
    (((overrides.value? setting).map (seenFrom files home? files.currentPath setting)).or
      (((given setting).or (default.value? setting)).map
        (seenFrom files home? (rootOf files path?) setting))).map (settled setting)

/-- With a file layer something is loaded. -/
theorem load_of_fileLayer (home? : Option Text) (overrides : Overrides)
    (layer : FileLayer files name path? given) :
    ∃ config, (load files home? name overrides).result = .ok config ∧
      Layered files home? path? given overrides config := by
  obtain ⟨before, nearest, same, path, values⟩ := ofNearest_of_fileLayer home? layer
  rw [load, Outcome.andThen_of_ok nearest, same]
  refine ⟨_, rfl, path, fun setting => ?_⟩
  rw [← values setting, ← value?_apply]
  exact value?_normalized _ setting

/-- The layers leave one configuration only. -/
theorem Layered.unique (layered : Layered files home? path? given overrides config)
    (layered' : Layered files home? path? given overrides config') : config = config' :=
  ext_value? (layered.configPath.trans layered'.configPath.symm) fun setting =>
    (layered.value setting).trans (layered'.value setting).symm

/-! ### Paths -/

end Config

end IconComponents
