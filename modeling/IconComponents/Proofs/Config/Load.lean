/-
**What a loaded configuration is like.**

Whatever the layers say, the extension of a loaded configuration starts with a dot
(`extension_of_load`) and its output is a path (`output_of_load`).
-/

import IconComponents.Config.Load

namespace IconComponents

open FileSystem

variable {files : FileSystem} {home? : Option Text} {name : Text} {overrides : Overrides}
  {config : Config}

theorem Location.path_ne_nil (location : Location) : location.path ≠ [] := by
  unfold Location.path
  split
  · simp
  · next below =>
    cases location with
    | nil => exact absurd rfl below
    | cons name location => simp

theorem Path.join_ne_nil {base : Text} (nonempty : base ≠ []) (path : Text) :
    Path.join base path ≠ [] := by
  unfold Path.join
  split
  · split
    · next absolute =>
      rintro rfl
      cases absolute
    · simp [nonempty]
  · simp [nonempty]

theorem FileSystem.absolute_ne_nil (files : FileSystem) (path : Text) :
    files.absolute path ≠ [] := by
  unfold absolute canonical?
  split
  · next location _ => exact location.path_ne_nil
  · exact Path.join_ne_nil (Location.path_ne_nil _) path

namespace Config

/-- The last layer of a loaded configuration. -/
theorem load_eq_ok (loaded : (load files home? name overrides).result = .ok config) :
    ∃ before, (ofNearest files home? name).result = .ok before ∧
      config =
        { overrides.apply (ofNearest files home? name).files home? before with
          extension := normalizeExtension
            (overrides.apply (ofNearest files home? name).files home? before).extension } := by
  unfold load at loaded
  cases nearest : (ofNearest files home? name).result with
  | error error =>
    rw [Outcome.andThen_of_error nearest] at loaded
    cases loaded
  | ok before =>
    rw [Outcome.andThen_of_ok nearest] at loaded
    cases loaded
    exact ⟨before, rfl, rfl⟩

/-- A file that can be read is a configuration, seen from the directory above it. -/
theorem ofFile_of_parse {path text root : Text} {unknown : List Text} (home? : Option Text)
    (read : (files.read? path).bind Content.text? = some text)
    (parsed : parse text = .ok (config, unknown)) (above : Path.parent? path = some root) :
    ofFile files home? path = Outcome.behind (unknownNames path unknown)
      (.done files
        { config.resolve files home? root with configPath := some (files.absolute path) }) := by
  simp only [ofFile, read, parsed, above, Option.getD_some]

/-- Without a command line, what is loaded is the lower layers with an extension that starts with a
dot. -/
theorem load_of_nearest (nearest : (ofNearest files home? name).result = .ok config) :
    (load files home? name Overrides.none).result =
      .ok { config with extension := normalizeExtension config.extension } := by
  rw [load, Outcome.andThen_of_ok nearest]
  rfl

/-- An extension starts with a dot. -/
theorem normalizeExtension_eq (extension : Text) :
    ∃ rest, normalizeExtension extension = '.' :: rest := by
  unfold normalizeExtension
  split
  · exact ⟨_, rfl⟩
  · exact ⟨_, rfl⟩
  · exact ⟨_, rfl⟩

/-- **The extension of a loaded configuration starts with a dot.** -/
theorem extension_of_load (loaded : (load files home? name overrides).result = .ok config) :
    ∃ rest, config.extension = '.' :: rest := by
  obtain ⟨before, -, rfl⟩ := load_eq_ok loaded
  exact normalizeExtension_eq _

/-- A configuration from the nearest file has an output directory. -/
theorem output_of_nearest (loaded : (ofNearest files home? name).result = .ok config) :
    config.output ≠ [] := by
  unfold ofNearest at loaded
  split at loaded
  · unfold ofFile at loaded
    split at loaded
    · cases loaded
    · split at loaded
      · cases loaded
      · cases loaded
        exact absolute_ne_nil _ _
  · cases loaded
    exact absolute_ne_nil _ _

/-- **The output of a loaded configuration is a path.** -/
theorem output_of_load (loaded : (load files home? name overrides).result = .ok config) :
    config.output ≠ [] := by
  obtain ⟨before, nearest, rfl⟩ := load_eq_ok loaded
  change (overrides.output.map _).getD before.output ≠ []
  cases overrides.output with
  | none => exact output_of_nearest nearest
  | some path => exact absolute_ne_nil _ _

end Config

end IconComponents
