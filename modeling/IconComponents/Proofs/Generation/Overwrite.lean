/-
**What a run does to the files that were there.**

A run that does not generate components again looks for their names among the names of the files in
the output directory, cut at the first dot, and then writes each component where its path leads.
The two agree for plain names, but a component may well be written over a file that the search has
missed.

* `Replaces` — an icon's component is missed by the search, and its path leads to a location;
* `generate_file` — a file is kept or replaced by such a component, and a run that succeeds replaces
  every file that there is such a component for;
* `mem_takenNames_iff` — what the search finds;
* `IsPlain.not_replaces` — under plain settings there is no such component.
-/

import IconComponents.Proofs.Config.Load
import IconComponents.Proofs.FileSystem.Below
import IconComponents.Proofs.Generation.Icons
import IconComponents.Proofs.Name.TitleCase

namespace IconComponents.Generation

open FileSystem

variable {engines : Engines} {config : Config} {files : FileSystem} {location : Location}
  {content : Content} {icon name : Text}

/-! ### A run -/

/-- **An icon's component replaces what is at a location**: the pattern selects the icon, the
search misses its name, and the path of its component leads there. -/
structure Replaces (engines : Engines) (config : Config) (files : FileSystem) (icon : Text)
    (location : Location) : Prop where
  selected : ∃ icons, selectIcons files config.entry = .ok icons ∧ icon ∈ icons
  missed : engines.componentName config icon ∉ takenNames files config.output
  found : (files.makeDirectories config.output).2.locate (componentFile engines config icon) =
    .ok location

/-- What is at a location is the component of such an icon. -/
def HoldsComponent (engines : Engines) (config : Config) (files : FileSystem) (location : Location)
    (held : Option Entry) : Prop :=
  ∃ icon template source, Replaces engines config files icon location ∧
    engines.loadTemplate files config.template = .ok template ∧ IsSource config template icon source ∧
    held = some (.file (.text source))

theorem HoldsComponent.of_isComponent {template : engines.Template} {icons : List Text}
    {held : Option Entry} (selected : selectIcons files config.entry = .ok icons)
    (loaded : engines.loadTemplate files config.template = .ok template)
    (component : IsComponent config template (files.makeDirectories config.output).2 icons
      (takenNames files config.output) location held) :
    HoldsComponent engines config files location held := by
  obtain ⟨icon, member, leads, source, written, now⟩ := component
  exact ⟨icon, template, source, ⟨⟨icons, selected, member⟩, leads.free, leads.found⟩, loaded,
    written, now⟩

/-- **What a run does to a file.** A run without `rewrite` keeps the file or writes the component of
an icon over it whose name the search has missed; a run that succeeds replaces every file that there
is such an icon for. -/
theorem generate_file (once : config.rewrite = false)
    (there : files.entry? location = some (.file content)) :
    ((engines.generate config files).files.entry? location = some (.file content) ∨
        HoldsComponent engines config files location
          ((engines.generate config files).files.entry? location)) ∧
      ∀ summary, (engines.generate config files).result = .ok summary →
        (∃ icon, Replaces engines config files icon location) →
          HoldsComponent engines config files location
            ((engines.generate config files).files.entry? location) := by
  rcases generate_cases engines config files with
    ⟨error, -, failed, same⟩ | ⟨nothing, -, same⟩ | ⟨icons, template, -, selected, loaded, result, same⟩
  · rw [same]
    refine ⟨Or.inl there, fun summary succeeded => ?_⟩
    rw [failed] at succeeded
    cases succeeded
  · rw [same]
    refine ⟨Or.inl there, fun summary _ replaces => ?_⟩
    obtain ⟨icon, ⟨others, selection, member⟩, -⟩ := replaces
    rw [nothing] at selection
    cases selection
    cases member
  · rw [same, result]
    have adds := makeDirectories_adds files config.output
    have stood : (FileSystem.entry? (files.makeDirectories config.output).2 location).isSome =
        true := by
      rw [adds.kept location _ there]
      rfl
    have fate : Fate config template (files.makeDirectories config.output).2 icons
        (takenNames files config.output) location content
        (engines.generateAll config template icons (takenNames files config.output) files) :=
      generateAll_fate once (Ready.start config files) stood there
    refine ⟨fate.kept_or.imp_right (.of_isComponent selected loaded),
      fun summary succeeded replaces => ?_⟩
    refine .of_isComponent selected loaded (fate.replaced summary succeeded ?_)
    obtain ⟨icon, ⟨others, selection, member⟩, missed, found⟩ := replaces
    rw [selected] at selection
    cases selection
    exact ⟨icon, member, missed, found⟩

/-! ### Plain names -/

/-- Settings under which the search and the paths of components agree: the affixes of names have no
dot and no slash, the extension has no slash, and the output directory is there or is written
without `..`. -/
structure IsPlain (config : Config) (files : FileSystem) : Prop where
  leading : '.' ∉ config.leading ∧ '/' ∉ config.leading
  trailing : '.' ∉ config.trailing ∧ '/' ∉ config.trailing
  extension : '/' ∉ config.extension
  output : (∃ place, files.locate config.output = .ok place) ∨
    ['.', '.'] ∉ Text.splitOn '/' config.output

/-- Plain affixes give names without dots and slashes. -/
theorem IsPlain.componentName (plain : IsPlain config files) (icon : Text) :
    '.' ∉ engines.componentName config icon ∧ '/' ∉ engines.componentName config icon := by
  have solid : ∀ {c : Char} {text : Text}, c.isAlphanum = false →
      c ∉ Name.titleCaseBy engines.spell text := by
    intro c text odd member
    rw [Name.isAlphanum_of_mem_titleCaseBy member] at odd
    cases odd
  unfold Engines.componentName Name.ofPathBy
  simp only [List.mem_append, not_or]
  exact ⟨⟨⟨plain.leading.1, solid (by decide)⟩, plain.trailing.1⟩,
    ⟨⟨plain.leading.2, solid (by decide)⟩, plain.trailing.2⟩⟩

theorem mem_names {directory : Location} {fileName : Text} {entry : Entry}
    (there : files.entry? (directory ++ [fileName]) = some entry) :
    fileName ∈ files.names directory :=
  mem_names_iff.mpr ⟨entry, mem_entries_of_entry? (by simp) there⟩

/-- **The search finds what a file in the output directory is called** up to its first dot. -/
theorem mem_takenNames_iff {output : Text} :
    name ∈ takenNames files output ↔
      ∃ directory fileName content, files.locate output = .ok directory ∧
        files.entry? (directory ++ [fileName]) = some (.file content) ∧
        Text.upTo '.' fileName = name := by
  rw [takenNames]
  cases files.locate output with
  | error error => simp
  | ok directory =>
    simp only [List.mem_map, List.mem_filter, Except.ok.injEq, exists_and_left, exists_eq_left']
    constructor
    · rintro ⟨fileName, ⟨-, isFile⟩, cut⟩
      rcases there : files.entry? (directory ++ [fileName]) with _ | _ | content
      · rw [there] at isFile
        cases isFile
      · rw [there] at isFile
        cases isFile
      · exact ⟨fileName, content, there, cut⟩
    · rintro ⟨fileName, content, there, cut⟩
      refine ⟨fileName, ⟨mem_names there, ?_⟩, cut⟩
      rw [there]
      rfl

/-- The name of a file in the output directory is taken up to its first dot. -/
theorem mem_takenNames {directory : Location} {rest : Text}
    (found : files.locate config.output = .ok directory)
    (there : files.entry? (directory ++ [name ++ '.' :: rest]) = some (.file content))
    (free : '.' ∉ name) : name ∈ takenNames files config.output := by
  refine mem_takenNames_iff.mpr ⟨directory, _, content, found, there, ?_⟩
  rw [Text.upTo, List.takeWhile_append_of_pos]
  · simp
  · intro c member
    have other : c ≠ '.' := fun same => free (same ▸ member)
    simp [other]

variable {start : FileSystem} {home? : Option Text} {file : Text} {overrides : Overrides}

/-- A component's file is an entry of the output directory. -/
theorem directory_of_found
    (loaded : (Config.load start home? file overrides).result = .ok config)
    (noSlash : '/' ∉ engines.componentName config icon) (extension : '/' ∉ config.extension)
    (tree : files.IsTree) (stands : files.entry? location = some (.file content))
    (found : files.locate (componentFile engines config icon) = .ok location) :
    ∃ directory rest, files.locate config.output = .ok directory ∧
      location = directory ++ [engines.componentName config icon ++ '.' :: rest] := by
  obtain ⟨rest, dotted⟩ := Config.extension_of_load loaded
  have single : '/' ∉ engines.componentName config icon ++ config.extension := by
    rw [List.mem_append, not_or]
    exact ⟨noSlash, extension⟩
  obtain ⟨directory, way, step⟩ := locate_join (Config.output_of_load loaded) single found
  obtain ⟨above, rfl, -⟩ := step_eq_ok_iff.mp step
  refine ⟨directory, rest, way, ?_⟩
  rw [tree.target_of_file above stands, dotted]

/-- A component whose path leads to a file that was there before has a name that the search
finds. -/
theorem taken_of_found {last : FileSystem} {held : Content}
    (loaded : (Config.load start home? file overrides).result = .ok config)
    (noDot : '.' ∉ engines.componentName config icon)
    (noSlash : '/' ∉ engines.componentName config icon) (extension : '/' ∉ config.extension)
    (output : (∃ place, files.locate config.output = .ok place) ∨
      ['.', '.'] ∉ Text.splitOn '/' config.output)
    (tree : files.IsTree) (there : files.entry? location = some (.file content))
    (grows : Grows files last) (tree' : last.IsTree)
    (stands : last.entry? location = some (.file held))
    (found : last.locate (componentFile engines config icon) = .ok location) :
    engines.componentName config icon ∈ takenNames files config.output := by
  obtain ⟨directory, rest, way, rfl⟩ :=
    directory_of_found loaded noSlash extension tree' stands found
  have before : files.locate config.output = .ok directory := by
    rcases output with ⟨place, led⟩ | down
    · rw [led, ← grows.locate led, way]
    · obtain ⟨segments, read, walked⟩ := locate_eq_ok_iff.mp way
      obtain rfl := eq_splitOn_of_segments? read
      rw [grows.start] at walked
      have held : files.entry? directory = some .directory := by
        have parent := tree _ (Option.isSome_iff_exists.mpr ⟨_, there⟩)
        rwa [List.dropLast_concat] at parent
      exact locate_eq_ok_iff.mpr ⟨_, read, tree.walk_of_down down held walked⟩
  exact mem_takenNames before there noDot

/-- **A component with a plain name replaces no file** if the output directory is there or is
spelled without a way back. -/
theorem not_replaces_of_free
    (loaded : (Config.load start home? file overrides).result = .ok config)
    (noDot : '.' ∉ engines.componentName config icon)
    (noSlash : '/' ∉ engines.componentName config icon) (extension : '/' ∉ config.extension)
    (output : (∃ place, files.locate config.output = .ok place) ∨
      ['.', '.'] ∉ Text.splitOn '/' config.output)
    (tree : files.IsTree) (there : files.entry? location = some (.file content)) :
    ¬ Replaces engines config files icon location := by
  rintro ⟨-, missed, found⟩
  have adds := makeDirectories_adds files config.output
  exact missed (taken_of_found loaded noDot noSlash extension output tree there adds.grows
    (adds.isTree tree) (adds.kept location _ there) found)

/-- **Under plain settings no component replaces a file.** -/
theorem IsPlain.not_replaces (plain : IsPlain config files)
    (loaded : (Config.load start home? file overrides).result = .ok config)
    (tree : files.IsTree) (there : files.entry? location = some (.file content)) :
    ¬ Replaces engines config files icon location := by
  obtain ⟨noDot, noSlash⟩ := plain.componentName icon
  exact not_replaces_of_free loaded noDot noSlash plain.extension plain.output tree there

/-- **A run without `rewrite` under a loaded configuration** keeps a file unless the component of an
icon replaces it whose name the search has missed; if there is such an icon and the run succeeds,
the file is replaced, and under plain settings it is always kept. -/
theorem generate_without_rewrite
    (loaded : (Config.load start home? file overrides).result = .ok config)
    (once : config.rewrite = false) (there : files.entry? location = some (.file content)) :
    ((engines.generate config files).files.entry? location = some (.file content) ∨
        HoldsComponent engines config files location
          ((engines.generate config files).files.entry? location)) ∧
      (∀ summary, (engines.generate config files).result = .ok summary →
        (∃ icon, Replaces engines config files icon location) →
          HoldsComponent engines config files location
            ((engines.generate config files).files.entry? location)) ∧
      (files.IsTree → IsPlain config files →
        (engines.generate config files).files.entry? location = some (.file content)) := by
  obtain ⟨kept, replaced⟩ := generate_file once there
  refine ⟨kept, replaced, fun tree plain => ?_⟩
  rcases kept with kept | ⟨icon, _, _, replaces, -⟩
  · exact kept
  · exact absurd replaces (plain.not_replaces loaded tree there)

/-- A project with one icon, a small template, and a file of one's own among the components. -/
def ownFile (name : String) : FileSystem :=
  { entries :=
      [(["icons".toList], .directory),
        (["icons".toList, "time.svg".toList],
          .file (.text "<svg xmlns=\"http://www.w3.org/2000/svg\"/>".toList)),
        (["icon.hbs".toList], .file (.text "<svg/>".toList)),
        (["out".toList], .directory),
        (["out".toList, name.toList], .file (.text "// mine".toList))]
    current := [] }

/-- A command line for the project, with a start for the names of components. -/
def ownOverrides (leading : String) : Overrides :=
  { Overrides.none with
    entry := some "icons/*.svg".toList, output := some "out".toList,
    leading := some leading.toList, template := some "icon.hbs".toList }

/-- The configuration that it loads. -/
def ownConfig (leading : String) : Config :=
  { Config.default with
    entry := "/icons/*.svg".toList, output := "/out".toList, leading := leading.toList,
    template := some "/icon.hbs".toList }

/-- A plain start for names keeps the file. -/
theorem ownFile_kept :
    (generate (ownConfig "My") (ownFile "MyTime.tsx")).files.entry?
      ["out".toList, "MyTime.tsx".toList] = some (.file (.text "// mine".toList)) := by
  have loaded : (Config.load (ownFile "MyTime.tsx") none "icongen.toml".toList
      (ownOverrides "My")).result = .ok (ownConfig "My") := by decide +kernel
  refine (generate_without_rewrite loaded rfl (by decide)).2.2 ?_ ?_
  · exact isTree_of_entries (by decide)
  · exact ⟨by decide, by decide, by decide, Or.inr (by decide)⟩

/-- **A start with a dot loses it**, though the file is there and is not to be written again. -/
theorem ownFile_replaced :
    (Config.load (ownFile "my.Time.tsx") none "icongen.toml".toList (ownOverrides "my.")).result =
        .ok (ownConfig "my.") ∧
      (ownConfig "my.").rewrite = false ∧
      FileSystem.entry? (ownFile "my.Time.tsx") ["out".toList, "my.Time.tsx".toList] =
        some (.file (.text "// mine".toList)) ∧
      (generate (ownConfig "my.") (ownFile "my.Time.tsx")).files.entry?
          ["out".toList, "my.Time.tsx".toList] =
        some (.file (.text ("<svg viewBox=\"0 0 100 100\" ".toList ++
          "xmlns=\"http://www.w3.org/2000/svg\"><defs/></svg>".toList))) := by
  unfold ownFile ownOverrides ownConfig
  repeat rw [String.toList_ofList]
  decide +kernel

end IconComponents.Generation
