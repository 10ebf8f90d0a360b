/-
**What a run leaves that succeeds.**

A run without `rewrite` over icons whose names are identifiers generates the first icon of each name
that no file in the output directory has, and skips the others. If the output directory is there, or
is spelled without a way back, every file is kept and every component is made of what its icon held
before the run; otherwise the run may write over files that it has not looked for, and read an icon
that it has written itself.

* `mem_takenNames_iff` — the names that are taken;
* `Generates.keeps` — without a clash of names all files are kept;
* `generate_once` — what a run has generated, skipped, written and read;
* `echoed_rewritten` — a component that is made of another one.
-/

import IconComponents.Proofs.Generation.Collision
import IconComponents.Proofs.Generation.Contents
import IconComponents.Proofs.Generation.Overwrite

namespace IconComponents.Generation

open FileSystem

variable {engines : Engines} {config : Config} {template : engines.Template} {files : FileTree}
  {last : FileSystem} {location : Location} {content : Content} {summary : Summary}
  {icon name output : Text} {icons before after : List Text}

/-! ### Names -/

/-- An identifier has neither dots nor slashes. -/
theorem free_of_isIdentifier (identifier : Name.isIdentifier name = true) :
    '.' ∉ name ∧ '/' ∉ name := by
  have part : ∀ c ∈ name, Name.isIdentifierPart c = true := by
    cases name with
    | nil => cases identifier
    | cons first rest =>
      obtain ⟨start, parts⟩ := Bool.and_eq_true_iff.mp identifier
      rw [List.forall_mem_cons]
      refine ⟨?_, List.all_eq_true.mp parts⟩
      unfold Name.isIdentifierStart at start
      unfold Name.isIdentifierPart Char.isAlphanum
      simp only [Bool.or_eq_true] at start ⊢
      rcases start with (letter | low) | dollar
      · exact Or.inl (Or.inl (Or.inl letter))
      · exact Or.inl (Or.inr low)
      · exact Or.inr dollar
  exact ⟨fun member => absurd (part _ member) (by decide),
    fun member => absurd (part _ member) (by decide)⟩

variable {start : FileSystem} {home? : Option Text} {file : Text} {overrides : Overrides}

/-! ### Files that were there -/

/-- The output directory is there, or it is spelled without a way back. -/
def HasPlainOutput (config : Config) (files : FileSystem) : Prop :=
  (∃ place, files.locate config.output = .ok place) ∨
    ['.', '.'] ∉ Text.splitOn '/' config.output

/-- Names that are neither taken nor hide a dot or a slash. -/
def AreFree (engines : Engines) (config : Config) (files : FileSystem) (icons : List Text) : Prop :=
  ∀ icon ∈ icons, Name.isIdentifier (engines.componentName config icon) = true ∧
    engines.componentName config icon ∉ takenNames files config.output

/-- No component is written where a file was. -/
theorem Generates.not_file (run : Generates config template icons files last)
    (loaded : (Config.load start home? file overrides).result = .ok config)
    (extension : '/' ∉ config.extension) (output : HasPlainOutput config files)
    (free : AreFree engines config files icons) (member : icon ∈ icons)
    (led : last.locate (componentFile engines config icon) = .ok location) :
    files.entry? location ≠ some (.file content) := by
  intro there
  obtain ⟨place, source, found, stands⟩ := run.found member
  rw [led] at found
  cases found
  obtain ⟨identifier, missed⟩ := free icon member
  obtain ⟨noDot, noSlash⟩ := free_of_isIdentifier identifier
  exact missed (taken_of_found loaded noDot noSlash extension output files.isTree there run.grows
    (run.isTree files.isTree) stands led)

/-- **Without a clash of names all files are kept.** -/
theorem Generates.keeps (run : Generates config template icons files last)
    (loaded : (Config.load start home? file overrides).result = .ok config)
    (extension : '/' ∉ config.extension) (output : HasPlainOutput config files)
    (free : AreFree engines config files icons)
    (there : files.entry? location = some (.file content)) :
    last.entry? location = some (.file content) :=
  run.kept there fun _ member led =>
    run.not_file loaded extension output free member led there

/-! ### Runs -/

/-- What a run over icons has generated, skipped and written. -/
structure RunsOnce (config : Config) (template : engines.Template) (icons : List Text)
    (files : FileSystem) (summary : Summary) (last : FileSystem) : Prop where
  generated : summary.generated =
    (due engines config (takenNames files config.output) icons).map (componentFile engines config)
  skipped : summary.skipped =
    (passed engines config (takenNames files config.output) icons).map (engines.componentName config)
  fared : ∀ location,
    Fared engines config (due engines config (takenNames files config.output) icons) files last
      location
  holds : ∀ before icon after, due engines config (takenNames files config.output) icons =
    before ++ icon :: after → Holds config template before icon files last

/-- All files are kept, and components are made of what the icons held before. -/
structure KeepsFiles (config : Config) (template : engines.Template) (icons : List Text)
    (files last : FileSystem) : Prop where
  kept : ∀ location content, files.entry? location = some (.file content) →
    last.entry? location = some (.file content)
  made : ∀ icon ∈ icons, ∃ content source, files.read? icon = some content ∧
    IsMade config template icon content source ∧
    last.read? (componentFile engines config icon) = some (.text source)

/-- Each component holds what was made of its icon if no other one is in its place. -/
theorem Generates.holds_each (run : Generates config template icons files last)
    (extension : '/' ∉ config.extension) (free : AreFree engines config files icons)
    (different : (icons.map (engines.componentName config)).Nodup)
    (split : icons = before ++ icon :: after) : Holds config template before icon files last := by
  subst split
  refine run.holds fun later member => run.locate_ne files.isTree (fun other among =>
    (free_of_isIdentifier (free other among).1).2) extension (by simp) (by simp [member]) ?_
  intro same
  rw [List.map_append, List.map_cons, List.nodup_append, List.nodup_cons] at different
  exact different.2.1.1 (same ▸ List.mem_map_of_mem member)

/-- **All files are kept, and components are made of what the icons held**: the components before an
icon have left it as it was. -/
theorem Generates.keepsFiles (run : Generates config template icons files last)
    (loaded : (Config.load start home? file overrides).result = .ok config)
    (extension : '/' ∉ config.extension) (output : HasPlainOutput config files)
    (free : AreFree engines config files icons)
    (different : (icons.map (engines.componentName config)).Nodup)
    (readable : ∀ icon ∈ icons, ∃ content, files.read? icon = some content) :
    KeepsFiles config template icons files last := by
  refine ⟨fun _ _ => run.keeps loaded extension output free, fun icon member => ?_⟩
  obtain ⟨content, there⟩ := readable icon member
  obtain ⟨before, after, split⟩ := List.append_of_mem member
  obtain ⟨between, read, source, earlier, now, made, written⟩ :=
    (run.holds_each extension free different split).made
  obtain ⟨location, led, held⟩ := read?_eq_some_iff.mp there
  have ahead : AreFree engines config files before := fun other among =>
    free other (by rw [split]; exact List.mem_append_left _ among)
  have kept := read?_eq_some_iff.mpr ⟨location, earlier.grows.locate led,
    earlier.keeps loaded extension output ahead held⟩
  rw [now] at kept
  cases kept
  exact ⟨_, source, there, made, written⟩

/-- **A run without `rewrite` that succeeds**, over icons whose names are identifiers, has generated
the first icon of each name that is not taken and skipped the others. It has written nothing but the
components and made nothing but directories for them. With a plain output all files are kept and
components are made of what their icons held before. Over files of the same shape with the same
template and the same icons that are due, the run comes to the same. -/
theorem generate_once (files : FileTree)
    (loaded : (Config.load start home? file overrides).result = .ok config)
    (once : config.rewrite = false) (extension : '/' ∉ config.extension)
    (identifiers : ∀ icons, selectIcons files config.entry = .ok icons →
      ∀ icon ∈ icons, Name.isIdentifier (engines.componentName config icon) = true)
    (succeeded : (engines.generate config files).result = .ok summary) :
    ∃ icons template, selectIcons files config.entry = .ok icons ∧ Path.IsOrdered icons ∧
      (icons ≠ [] → engines.loadTemplate files config.template = .ok template) ∧
      RunsOnce config template icons files summary (engines.generate config files).files ∧
      (HasPlainOutput config files → KeepsFiles config template
        (due engines config (takenNames files config.output) icons) files
          (engines.generate config files).files) ∧
      ∀ other, other.skeleton = files.skeleton →
        engines.loadTemplate other config.template = engines.loadTemplate files config.template →
        (∀ icon ∈ due engines config (takenNames files config.output) icons,
          other.read? icon = files.read? icon) →
        (engines.generate config other).result = .ok summary ∧
          Abreast files other (engines.generate config files).files
            (engines.generate config other).files ∧
          (HasPlainOutput config files →
            ∀ icon ∈ due engines config (takenNames files config.output) icons,
              (engines.generate config other).files.read? (componentFile engines config icon) =
                (engines.generate config files).files.read? (componentFile engines config icon)) := by
  obtain ⟨icons, template, selected, template_loaded, run⟩ := generate_succeeds succeeded
  obtain rfl := Except.ok.inj (succeeded.symm.trans run.result)
  obtain ⟨-, -, -, ordered⟩ := selectIcons_eq_ok selected
  have free :
      AreFree engines config files (due engines config (takenNames files config.output) icons) :=
    fun icon member => ⟨identifiers icons selected icon ((due_sublist _ _ _ _).subset member),
      not_taken_of_mem_due once member⟩
  refine ⟨icons, template, selected, ordered, template_loaded,
    ⟨rfl, rfl, run.files.fared, fun before icon after =>
      run.files.holds_each extension free (due_nodup once)⟩,
    fun output => run.files.keepsFiles loaded extension output free (due_nodup once)
      fun icon member => read?_of_selected selected ((due_sublist _ _ _ _).subset member),
    fun other shape same reads => ?_⟩
  have alike := generate_alike shape same fun others selected' => by
    rw [selected] at selected'
    cases selected'
    exact reads
  refine ⟨alike.result.trans succeeded, alike.files, fun output icon member => ?_⟩
  obtain ⟨location, source, led, there⟩ := run.files.found member
  have led' := (locate_of_shape alike.files.shape (componentFile engines config icon)).trans led
  rcases alike.files.entry location with equal | ⟨before, -⟩
  · rw [read?_eq_some_iff.mpr ⟨location, led, there⟩]
    exact read?_eq_some_iff.mpr ⟨location, led', equal.trans there⟩
  · rw [there] at before
    exact absurd before.symm
      (run.files.not_file loaded extension output free member led)

/-- The project keeps its own file and gets the component of its icon. -/
theorem ownFile_written :
    ∃ (template : Engines.standard.Template) (source : Text),
      (generate (ownConfig "") (ownFile "Other.tsx")).files.entry?
          ["out".toList, "Other.tsx".toList] = some (.file (.text "// mine".toList)) ∧
        IsMade (ownConfig "") template "/icons/time.svg".toList
          (.text "<svg xmlns=\"http://www.w3.org/2000/svg\"/>".toList) source ∧
        (generate (ownConfig "") (ownFile "Other.tsx")).files.read? "/out/Time.tsx".toList =
          some (.text source) := by
  have loaded : (Config.load (ownFile "Other.tsx") none "icongen.toml".toList
      (ownOverrides "")).result = .ok (ownConfig "") := by decide +kernel
  have selection : selectIcons (ownFile "Other.tsx") (ownConfig "").entry =
      .ok ["/icons/time.svg".toList] := by decide +kernel
  have succeeded : (generate (ownConfig "") (ownFile "Other.tsx")).result =
      .ok ⟨["/out/Time.tsx".toList], []⟩ := by decide +kernel
  obtain ⟨icons, template, selected, -, -, -, keeps, -⟩ := generate_once
    ⟨ownFile "Other.tsx", isTree_of_entries (by decide)⟩ loaded rfl (by decide)
      (fun icons selected => by
      rw [selection] at selected
      cases selected
      decide) succeeded
  rw [selection] at selected
  cases selected
  obtain ⟨kept, made⟩ := keeps (Or.inr (by decide))
  obtain ⟨content, source, there, made, written⟩ := made "/icons/time.svg".toList
    (by decide +kernel)
  have held : (ownFile "Other.tsx").read? "/icons/time.svg".toList =
      some (.text "<svg xmlns=\"http://www.w3.org/2000/svg\"/>".toList) := by decide +kernel
  rw [held] at there
  cases there
  exact ⟨template, source, kept _ _ (by decide), made, written⟩

/-- A project whose components are icons, beside the icons that they are made of. -/
def echoed : FileSystem :=
  { entries :=
      [(["icons".toList], .directory),
        (["icons".toList, "a.svg".toList],
          .file (.text "<svg xmlns=\"http://www.w3.org/2000/svg\" width=\"7\"/>".toList)),
        (["icons".toList, "zA.svg".toList],
          .file (.text "<svg xmlns=\"http://www.w3.org/2000/svg\" width=\"9\"/>".toList)),
        (["icon.hbs".toList], .file (.text ("<svg xmlns=\"http://www.w3.org/2000/svg\" ".toList ++
          "width=\"\x7b\x7bwidth\x7d\x7d\"></svg>".toList)))]
    current := [] }

/-- A command line for the project; the output is the directory of the icons, behind a way back. -/
def echoOverrides : Overrides :=
  { Overrides.none with
    entry := some "icons/*.svg".toList, output := some "new/../icons".toList,
    leading := some "z".toList, extension := some ".svg".toList,
    template := some "icon.hbs".toList }

/-- The configuration that it loads. -/
def echoConfig : Config :=
  { Config.default with
    entry := "/icons/*.svg".toList, output := "/new/../icons".toList, leading := "z".toList,
    extension := ".svg".toList, template := some "/icon.hbs".toList }

/-- **The first component replaces the second icon**, though it is there and is not to be written
again, and the second component is made of the first one. -/
theorem echoed_rewritten :
    (Config.load echoed none "icongen.toml".toList echoOverrides).result = .ok echoConfig ∧
      echoConfig.rewrite = false ∧ '/' ∉ echoConfig.extension ∧
      selectIcons echoed echoConfig.entry = .ok ["/icons/a.svg".toList, "/icons/zA.svg".toList] ∧
      Name.isIdentifier (Engines.standard.componentName echoConfig "/icons/a.svg".toList) = true ∧
      Name.isIdentifier (Engines.standard.componentName echoConfig "/icons/zA.svg".toList) = true ∧
      (generate echoConfig echoed).result =
        .ok ⟨["/new/../icons/zA.svg".toList, "/new/../icons/zZA.svg".toList], []⟩ ∧
      (generate echoConfig echoed).files.read? "/icons/zA.svg".toList =
        some (.text "<svg xmlns=\"http://www.w3.org/2000/svg\" width=\"7\"></svg>".toList) ∧
      (generate echoConfig echoed).files.read? "/icons/zZA.svg".toList =
        some (.text "<svg xmlns=\"http://www.w3.org/2000/svg\" width=\"7\"></svg>".toList) := by
  unfold echoed echoOverrides echoConfig
  repeat rw [String.toList_ofList]
  decide +kernel

end IconComponents.Generation
