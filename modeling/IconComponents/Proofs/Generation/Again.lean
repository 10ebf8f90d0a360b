/-
**Generating again.**

After a run every icon has its component, so that another run without `rewrite` finds all names taken
and leaves the files as they are. It only uses the template once more. If the first run has written a
component over the template, which it can do where the output is spelled with a way back, the other
run may fail.

* `Generates.taken_of_due` — a component that was written takes its name;
* `generateAll_of_taken` — a run over icons whose names are taken skips them all;
* `generate_again` — what a second run comes to;
* `spun_unusable` — a template that is replaced by a component.
-/

import IconComponents.Proofs.Generation.Success

namespace IconComponents.Generation

open FileSystem

variable {engines : Engines} {config : Config} {template : engines.Template}
  {files last : FileSystem} {location : Location} {content : Content} {summary : Summary}
  {icon : Text} {icons taken : List Text}

/-! ### Names that are taken afterwards -/

/-- A file is a file afterwards. -/
theorem Generates.file (run : Generates config template icons files last)
    (there : files.entry? location = some (.file content)) :
    ∃ held, last.entry? location = some (.file held) := by
  cases run.fared location with
  | kept same => exact ⟨content, same.trans there⟩
  | opened absent =>
    rw [there] at absent
    cases absent
  | written _ _ _ source now => exact ⟨.text source, now⟩

/-- Names that are taken stay taken. -/
theorem Generates.takenNames_subset (run : Generates config template icons files last)
    (output : Text) : takenNames files output ⊆ takenNames last output := by
  intro name seen
  obtain ⟨directory, fileName, content, way, there, cut⟩ := mem_takenNames_iff.mp seen
  obtain ⟨held, now⟩ := run.file there
  exact mem_takenNames_iff.mpr ⟨directory, fileName, held, run.grows.locate way, now, cut⟩

variable {start : FileSystem} {home? : Option Text} {file : Text} {overrides : Overrides}

/-- **A component that was written takes its name**: cut at the first dot, its file name is the name
of the component again. -/
theorem Generates.taken_of_due {files : FileTree} (run : Generates config template icons files last)
    (loaded : (Config.load start home? file overrides).result = .ok config)
    (extension : '/' ∉ config.extension)
    (identifier : Name.isIdentifier (engines.componentName config icon) = true)
    (member : icon ∈ icons) :
    engines.componentName config icon ∈ takenNames last config.output := by
  obtain ⟨noDot, noSlash⟩ := free_of_isIdentifier identifier
  obtain ⟨location, source, found, stands⟩ := run.found member
  obtain ⟨directory, rest, way, rfl⟩ :=
    directory_of_found loaded noSlash extension (run.isTree files.isTree) stands found
  exact mem_takenNames way stands noDot

/-! ### Runs that skip everything -/

/-- **A run over icons whose names are taken** skips them all and leaves the files. -/
theorem generateAll_of_taken (once : config.rewrite = false)
    (all : ∀ icon ∈ icons, engines.componentName config icon ∈ taken) :
    (engines.generateAll config template icons taken files).files = files ∧
      (engines.generateAll config template icons taken files).result =
        .ok ⟨[], icons.map (engines.componentName config)⟩ := by
  induction icons with
  | nil => exact ⟨rfl, rfl⟩
  | cons icon icons ih =>
    obtain ⟨seen, others⟩ := List.forall_mem_cons.mp all
    have skipped : ¬ IsDue engines config taken [] icon := by
      rw [isDue_nil_iff, not_not, once, Bool.not_false, Bool.true_and]
      exact List.elem_iff.mpr seen
    obtain ⟨same, result⟩ := generateAll_of_not_due template icons files skipped
    obtain ⟨unchanged, behind⟩ := ih others
    refine ⟨same.trans unchanged, ?_⟩
    rw [result, behind]
    rfl

/-- What a run over icons comes to that all have their components: it changes nothing, and it skips
the icons if the template can be used. -/
structure Rests (engines : Engines) (config : Config) (icons : List Text)
    (files : FileSystem) : Prop where
  unchanged : (engines.generate config files).files = files
  result : (engines.generate config files).result =
    if icons = [] then .ok ⟨[], []⟩
    else (engines.loadTemplate files config.template).map fun _ =>
      ⟨[], icons.map (engines.componentName config)⟩

/-- A run in which all names are taken rests. -/
theorem rests_of_taken (once : config.rewrite = false) (named : Text.isBlank config.entry = false)
    (selected : selectIcons files config.entry = .ok icons)
    (all : ∀ icon ∈ icons, engines.componentName config icon ∈ takenNames files config.output) :
    Rests engines config icons files := by
  rcases generate_cases engines config files with
    ⟨error, early, failed, same⟩ | ⟨nothing, result, same⟩ |
      ⟨others, template, some, selection, loaded, result, same⟩
  · refine ⟨same, ?_⟩
    cases early with
    | noEntry blank =>
      rw [named] at blank
      cases blank
    | noSelection refused =>
      rw [selected] at refused
      cases refused
    | noTemplate selection some refused =>
      rw [selected] at selection
      cases selection
      rw [failed, if_neg some, refused]
      rfl
  · rw [selected] at nothing
    cases nothing
    exact ⟨same, result⟩
  · rw [selected] at selection
    cases selection
    obtain ⟨unchanged, skips⟩ := generateAll_of_taken once all
    refine ⟨same.trans unchanged, ?_⟩
    rw [result, skips, if_neg some, loaded]
    rfl

theorem not_blank_of_generate (succeeded : (engines.generate config files).result = .ok summary) :
    Text.isBlank config.entry = false := by
  cases blank : Text.isBlank config.entry with
  | false => rfl
  | true =>
    rw [Engines.generate, if_pos blank] at succeeded
    cases succeeded

/-! ### The template -/

/-- A run writes a component over its template. -/
def ReplacesTemplate (engines : Engines) (config : Config) (files : FileSystem) : Prop :=
  ∃ path location content icon, config.template = some path ∧ files.locate path = .ok location ∧
    files.entry? location = some (.file content) ∧ Replaces engines config files icon location

/-- **The template is read as before** unless a component replaces it. -/
theorem loadTemplate_or_replaces (once : config.rewrite = false)
    (grows : Grows files (engines.generate config files).files)
    (usable : engines.loadTemplate files config.template = .ok template) :
    engines.loadTemplate (engines.generate config files).files config.template = .ok template ∨
      ReplacesTemplate engines config files := by
  cases configured : config.template with
  | none =>
    rw [configured] at usable
    exact Or.inl usable
  | some path =>
    rw [configured, Engines.loadTemplate] at usable
    cases read : files.read? path with
    | none =>
      rw [read] at usable
      cases usable
    | some content =>
      obtain ⟨location, led, there⟩ := read?_eq_some_iff.mp read
      rcases (generate_file once there).1 with kept | ⟨icon, _, _, replaces, -⟩
      · refine Or.inl ?_
        rw [Engines.loadTemplate, read?_eq_some_iff.mpr ⟨location, grows.locate led, kept⟩, ← read]
        exact usable
      · exact Or.inr ⟨path, location, content, icon, configured, led, there, replaces⟩

/-- Plain names in a plain output leave the template. -/
theorem not_replacesTemplate {files : FileTree}
    (loaded : (Config.load start home? file overrides).result = .ok config)
    (extension : '/' ∉ config.extension) (output : HasPlainOutput config files)
    (identifiers : ∀ icons, selectIcons files config.entry = .ok icons →
      ∀ icon ∈ icons, Name.isIdentifier (engines.componentName config icon) = true) :
    ¬ ReplacesTemplate engines config files := by
  rintro ⟨_, location, content, icon, -, -, there, replaces⟩
  obtain ⟨icons, selected, member⟩ := replaces.selected
  obtain ⟨noDot, noSlash⟩ := free_of_isIdentifier (identifiers icons selected icon member)
  exact not_replaces_of_free loaded noDot noSlash extension output files.isTree there replaces

/-! ### Two runs -/

/-- **A second run without `rewrite`**, after one that has succeeded over icons whose names are
identifiers, and over the same icons, generates nothing and leaves the files as they are. It skips
all icons unless the template can no longer be used; then the first run has written a component over
the template, which it does not do if the output directory was there or is spelled without a way
back. -/
theorem generate_again (files : FileTree)
    (loaded : (Config.load start home? file overrides).result = .ok config)
    (once : config.rewrite = false) (extension : '/' ∉ config.extension)
    (identifiers : ∀ icons, selectIcons files config.entry = .ok icons →
      ∀ icon ∈ icons, Name.isIdentifier (engines.componentName config icon) = true)
    (succeeded : (engines.generate config files).result = .ok summary)
    (same : selectIcons (engines.generate config files).files config.entry =
      selectIcons files config.entry) :
    ∃ icons, selectIcons files config.entry = .ok icons ∧
      Rests engines config icons (engines.generate config files).files ∧
      (¬ ReplacesTemplate engines config files →
        (engines.generate config (engines.generate config files).files).result =
          .ok ⟨[], icons.map (engines.componentName config)⟩) ∧
      (HasPlainOutput config files → ¬ ReplacesTemplate engines config files) := by
  obtain ⟨icons, template, selected, usable, run⟩ := generate_succeeds succeeded
  have all : ∀ icon ∈ icons,
      engines.componentName config icon ∈ takenNames
        (engines.generate config files).files config.output := by
    intro icon member
    rcases taken_or_due (takenNames files config.output) member with
      seen | ⟨other, isDue, name⟩
    · exact run.files.takenNames_subset _ seen
    · rw [← name]
      exact run.files.taken_of_due loaded extension
        (identifiers icons selected other ((due_sublist _ _ _ _).subset isDue)) isDue
  have rests := rests_of_taken once (not_blank_of_generate succeeded) (same.trans selected) all
  refine ⟨icons, selected, rests, fun kept => ?_,
    fun output => not_replacesTemplate loaded extension output identifiers⟩
  rw [rests.result]
  split
  · next none =>
    subst none
    rfl
  · next some =>
    rw [(loadTemplate_or_replaces once run.files.grows (usable some)).resolve_right kept]
    rfl

/-- A second run over a project with a file of its own. -/
theorem ownFile_again :
    (generate (ownConfig "") (generate (ownConfig "") (ownFile "Other.tsx")).files).files =
        (generate (ownConfig "") (ownFile "Other.tsx")).files ∧
      (generate (ownConfig "") (generate (ownConfig "") (ownFile "Other.tsx")).files).result =
        .ok ⟨[], ["Time".toList]⟩ := by
  have loaded : (Config.load (ownFile "Other.tsx") none "icongen.toml".toList
      (ownOverrides "")).result = .ok (ownConfig "") := by decide +kernel
  have selection : selectIcons (ownFile "Other.tsx") (ownConfig "").entry =
      .ok ["/icons/time.svg".toList] := by decide +kernel
  have succeeded : (generate (ownConfig "") (ownFile "Other.tsx")).result =
      .ok ⟨["/out/Time.tsx".toList], []⟩ := by decide +kernel
  obtain ⟨icons, selected, rests, skips, plain⟩ := generate_again
    ⟨ownFile "Other.tsx", isTree_of_entries (by decide)⟩ loaded rfl (by decide)
      (fun icons selected => by
      rw [selection] at selected
      cases selected
      decide) succeeded (by decide +kernel)
  rw [selection] at selected
  cases selected
  exact ⟨rests.unchanged, skips (plain (Or.inr (by decide)))⟩

/-- A project whose template has the name of a component and lies in the output directory. -/
def spun : FileSystem :=
  { entries :=
      [(["icons".toList], .directory),
        (["icons".toList, "a.svg".toList],
          .file (.text "<svg xmlns=\"http://www.w3.org/2000/svg\"/>".toList)),
        (["spun".toList], .directory),
        (["spun".toList, "A.hbs".toList],
          .file (.text "<svg/>\\\x7b\x7b#if x\x7d\x7d".toList))]
    current := [] }

/-- A command line for the project; the output is the directory of the template, behind a way
back. -/
def spunOverrides : Overrides :=
  { Overrides.none with
    entry := some "icons/*.svg".toList, output := some "new/../spun".toList,
    extension := some ".hbs".toList, template := some "spun/A.hbs".toList }

/-- The configuration that it loads. -/
def spunConfig : Config :=
  { Config.default with
    entry := "/icons/*.svg".toList, output := "/new/../spun".toList, extension := ".hbs".toList,
    template := some "/spun/A.hbs".toList }

/-- **The first component replaces the template**, and the second run cannot use it. -/
theorem spun_unusable :
    (Config.load spun none "icongen.toml".toList spunOverrides).result = .ok spunConfig ∧
      spunConfig.rewrite = false ∧ '/' ∉ spunConfig.extension ∧ spun.IsTree ∧
      Name.isIdentifier (Engines.standard.componentName spunConfig "/icons/a.svg".toList) = true ∧
      (generate spunConfig spun).result = .ok ⟨["/new/../spun/A.hbs".toList], []⟩ ∧
      selectIcons spun spunConfig.entry = .ok ["/icons/a.svg".toList] ∧
      selectIcons (generate spunConfig spun).files spunConfig.entry =
        .ok ["/icons/a.svg".toList] ∧
      (generate spunConfig spun).files.read? "/icons/a.svg".toList =
        spun.read? "/icons/a.svg".toList ∧
      (generate spunConfig (generate spunConfig spun).files).result =
        .error (.noSource .malformedTemplate) := by
  refine ⟨by decide +kernel, rfl, by decide, isTree_of_entries (by decide), by decide, ?_⟩
  decide +kernel

end IconComponents.Generation
