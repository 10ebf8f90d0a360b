/-
**Where components go without a setting.**

A configuration without an output has the empty path there, which is seen from the directory of the
configuration file like any other path of the file. So components go to the directory that the file
lies in, and to the working directory only if there is no file or if it lies there.

* `load_without_output` — the output of a configuration that none is set for.
-/

import IconComponents.Proofs.Config.Layers
import IconComponents.Proofs.Config.Search
import IconComponents.Proofs.Toml.Lines

namespace IconComponents

open FileSystem
open Toml (Value)

namespace Config

variable {files : FileSystem} {home? path? : Option Text} {name path : Text}
  {overrides : Overrides} {given : Setting → Option Value} {config : Config}

/-- Without a setting the output is the empty path, seen from the directory of the file. -/
theorem Layered.output_of_unset (layered : Layered files home? path? given overrides config)
    (unset : given .output = none) (unflagged : overrides.output = none) :
    config.output = files.absolute (Path.join (rootOf files path?) []) := by
  have output := layered.value .output
  rw [unset, Overrides.value?, unflagged] at output
  exact Value.text.inj (Option.some.inj output)

section

variable {files : Workplace}

/-- **The directory of the file** is where its root leads. -/
theorem FileLayer.locate_root (layer : FileLayer files name path? given) :
    ∃ directory, files.locate (Path.join (rootOf files path?) []) = .ok directory ∧
      (∀ name ∈ directory, Path.IsEntryName name) ∧
      (path? = none → directory = files.current) ∧
      (∀ path, path? = some path → ∃ file, files.locate path = .ok (directory ++ [file])) ∧
      (Path.IsEntryName name → directory <+: files.current) := by
  cases layer with
  | absent missing =>
    exact ⟨_, files.here, files.here.isEntryName, fun _ => rfl, fun _ some => (by cases some),
      fun _ => List.prefix_refl _⟩
  | @found path text document nearest read written fit =>
    obtain ⟨content, opened, -⟩ := Option.bind_eq_some_iff.mp read
    have file : files.isFile path = true := by rw [isFile, opened]; rfl
    obtain ⟨place, content, found, there⟩ := isFile_iff.mp file
    obtain ⟨parent, directory, last, above, led, rfl⟩ :=
      files.isTree.locate_parent? (isAbsolute_of_findConfig? nearest) found there
    have names := isEntryName_of_locate (isAbsolute_of_findConfig? nearest) found
    refine ⟨directory, ?_, fun name member => names name (List.mem_append_left _ member),
      fun none => (by cases none), ?_, fun named => ?_⟩
    · rwa [rootOf, Option.bind_some, above, Option.getD_some]
    · intro other same
      cases same
      exact ⟨last, found⟩
    · obtain ⟨start, inside, rfl, -⟩ := (findConfig?_eq_some_iff files.here named).mp nearest
      have above : ∀ segment ∈ start, Path.IsEntryName segment := fun segment member =>
        files.here.isEntryName segment (inside.subset member)
      have names : ∀ segment ∈ start ++ [name], Path.IsEntryName segment :=
        List.forall_mem_append.mpr ⟨above, List.forall_mem_singleton.mpr named⟩
      have same := locate_path names found
      rw [(List.append_inj_left' same rfl)]
      exact inside

/-- **Where components go without an output.** They go to the directory that the configuration file
lies in, which for a search by name is the nearest one that has such a file, and without a file to
the working directory. So they go to the working directory exactly if that is the directory of the
file, or if there is none. -/
theorem load_without_output (files : Workplace) (layer : FileLayer files name path? given)
    (unset : given .output = none) (unflagged : overrides.output = none) :
    ∃ config directory, (load files home? name overrides).result = .ok config ∧
      config.output = Location.path directory ∧
      (path? = none → directory = files.current) ∧
      (∀ path, path? = some path → ∃ file, files.locate path = .ok (directory ++ [file])) ∧
      (Path.IsEntryName name → directory <+: files.current) ∧
      (config.output = files.currentPath ↔ directory = files.current) := by
  obtain ⟨config, loaded, layered⟩ := load_of_fileLayer home? overrides layer
  obtain ⟨directory, led, names, absent, found, above⟩ := layer.locate_root
  have output : config.output = Location.path directory := by
    rw [layered.output_of_unset unset unflagged, absolute, canonical?, led]
    rfl
  refine ⟨config, directory, loaded, output, absent, found, above, ?_⟩
  rw [output]
  refine ⟨fun same => ?_, fun same => by rw [same]; rfl⟩
  exact Location.path_injective (fun name member => (names name member).1)
    (fun name member => (files.here.isEntryName name member).1) same

end

/-- A project whose file sets no output, worked on in a directory below. -/
def unplaced : Workplace where
  entries :=
    [(["work".toList], .directory),
      (["work".toList, "app".toList], .directory),
      (["work".toList, "icongen.toml".toList], .file (.text "prefix = \"Ui\"\n".toList))]
  current := ["work".toList, "app".toList]
  isTree := isTree_of_entries (by decide +kernel)
  here := by decide +kernel

/-- What the project's file gives. -/
theorem fileLayer_unplaced : FileLayer unplaced "icongen.toml".toList
    (some "/work/icongen.toml".toList)
    (givenBy [([.key "prefix".toList], .value (.text "Ui".toList))]) := by
  have written : Toml.read? "prefix = \"Ui\"\n".toList =
      some [([.key "prefix".toList], .value (.text "Ui".toList))] := by
    have line : Toml.dropMark "prefix = \"Ui\"\n".toList =
        Toml.assignment "prefix".toList (Toml.quotedLine "Ui".toList []) := by decide
    rw [Toml.read?_eq, line, Toml.readOn?_quoted (by decide) rfl (by decide), Toml.readOn?_nil]
    rfl
  refine .found (by decide +kernel) (by decide +kernel) written fun setting kind found => ?_
  cases setting
  case leading =>
    cases found
    exact ⟨_, rfl, _, rfl⟩
  all_goals cases found

/-- In a directory below the project, its components go beside the file. -/
theorem unplaced_output :
    Overrides.none.output = none ∧
      ∃ config, (load unplaced none "icongen.toml".toList Overrides.none).result = .ok config ∧
        config.output = "/work".toList ∧ config.output ≠ unplaced.currentPath := by
  obtain ⟨config, directory, loaded, output, -, found, -, only⟩ :=
    @load_without_output none _ _ Overrides.none _ unplaced fileLayer_unplaced rfl rfl
  obtain ⟨file, led⟩ := found _ rfl
  have place : unplaced.locate "/work/icongen.toml".toList =
      .ok (["work".toList] ++ ["icongen.toml".toList]) := by decide +kernel
  rw [place] at led
  obtain rfl := List.append_inj_left' (Except.ok.inj led) rfl
  refine ⟨rfl, config, loaded, output, fun same => ?_⟩
  exact absurd (only.mp same) (by decide)

/-- **A search that goes up takes the output along**: the file sets none and no flag is given, but
the components do not go to the working directory. -/
theorem output_leaves_current :
    ∃ path? given config, FileLayer unplaced "icongen.toml".toList path? given ∧
      given .output = none ∧
      (load unplaced none "icongen.toml".toList Overrides.none).result = .ok config ∧
      config.output ≠ unplaced.currentPath := by
  obtain ⟨config, loaded, layered⟩ := load_of_fileLayer none Overrides.none fileLayer_unplaced
  refine ⟨_, _, config, fileLayer_unplaced, rfl, loaded, ?_⟩
  rw [layered.output_of_unset rfl rfl]
  decide +kernel

end Config

end IconComponents
