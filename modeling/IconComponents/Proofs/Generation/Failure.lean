/-
**What a run that fails leaves.**

A run that fails before its first icon leaves everything as it was. A run that fails at an icon leaves
what a run over the icons before it leaves, and at most the output directory with those above it.

* `generate_failed` — where a run failed, and what it has left;
* `broken_second` — a run that fails at the second of its icons.
-/

import IconComponents.Proofs.Generation.Components

namespace IconComponents.Generation

open FileSystem

variable {engines : Engines} {config : Config} {template : engines.Template} {files more : FileSystem}
  {error : GenerationError} {icon name : Text} {icons before after : List Text}

/-- An icon that fails leaves at most the output directory. -/
theorem generateIcon_opens
    (failed : (engines.generateIcon config template files icon
      (engines.componentName config icon)).result = .error error) :
    Opens (outputPaths config) files
      (engines.generateIcon config template files icon (engines.componentName config icon)).files := by
  rcases generateIcon_cases config template files icon with ⟨_, -, same | same⟩ | ⟨-, succeeded⟩
  · rw [same]
    exact Opens.refl _ files
  · rw [same]
    exact makeDirectories_opens files config.output
  · rw [failed] at succeeded
    cases succeeded

/-- A file that is no icon is named. -/
theorem path_of_notAnIcon {path : Text} {cause : MinifyError}
    (failed : (engines.generateIcon config template files icon name).result =
      .error (.notAnIcon path cause)) :
    path = icon := by
  unfold Engines.generateIcon at failed
  split at failed
  · cases failed
  · split at failed
    · cases failed
      rfl
    · split at failed
      · cases failed
      · next source _ =>
        change Except.mapError GenerationError.file
          (writeComponent files config.output name config.extension source).result = _ at failed
        cases written : (writeComponent files config.output name config.extension source).result <;>
          rw [written] at failed <;> cases failed

/-- Where only directories come, the files stay what they were. -/
theorem opens_files_iff {paths : List Text} (opens : Opens paths files more) (location : Location)
    (content : Content) :
    more.entry? location = some (.file content) ↔ files.entry? location = some (.file content) :=
  ⟨opens.adds.noFile location content, opens.adds.kept location _⟩

/-- A run over selected icons works through them if the template is there. -/
theorem generateSelected_of_loaded (loaded : engines.loadTemplate files config.template = .ok template)
    (icons : List Text) :
    (engines.generateSelected config files icons).result =
        (engines.generateAll config template icons (takenNames files config.output) files).result ∧
      (engines.generateSelected config files icons).files =
        (engines.generateAll config template icons (takenNames files config.output) files).files := by
  cases icons with
  | nil => exact ⟨rfl, rfl⟩
  | cons icon icons =>
    rw [Engines.generateSelected, loaded]
    exact ⟨rfl, rfl⟩

/-- **A run that fails** before its first icon has changed nothing. Otherwise a run over the icons
before some icon succeeds, that icon fails after it, and the two runs leave the same files; besides,
there may be the output directory and those above it. -/
theorem generate_failed (failed : (engines.generate config files).result = .error error) :
    (EndsEarly engines config files error ∧ (engines.generate config files).files = files) ∨
      ∃ before icon after template,
        selectIcons files config.entry = .ok (before ++ icon :: after) ∧
        engines.loadTemplate files config.template = .ok template ∧
        IsDue engines config (takenNames files config.output) before icon ∧
        (∃ summary, (engines.generateSelected config files before).result = .ok summary) ∧
        (engines.generateIcon config template (engines.generateSelected config files before).files icon
          (engines.componentName config icon)).result = .error error ∧
        Opens (outputPaths config) (engines.generateSelected config files before).files
          (engines.generate config files).files ∧
        ∀ location content,
          (engines.generate config files).files.entry? location = some (.file content) ↔
            (engines.generateSelected config files before).files.entry? location =
              some (.file content) := by
  rcases generate_cases engines config files with
    ⟨other, early, raised, same⟩ | ⟨-, result, -⟩ | ⟨icons, template, -, selected, loaded, result, same⟩
  · rw [failed] at raised
    cases raised
    exact Or.inl ⟨early, same⟩
  · rw [failed] at result
    cases result
  · rw [failed] at result
    rcases generateAll_cases config template icons (takenNames files config.output) files with
      run | ⟨before, icon, after, rfl, earlier, isDue, ⟨other, raised, stopped⟩, last⟩
    · rw [run.result] at result
      cases result
    · rw [raised] at result
      cases result
      have opens := generateIcon_opens stopped
      rw [← last, ← same] at opens
      obtain ⟨result', files'⟩ := generateSelected_of_loaded loaded before
      rw [← files'] at opens stopped
      rw [← result'] at earlier
      exact Or.inr ⟨before, icon, after, template, selected, loaded, isDue, earlier, stopped, opens,
        opens_files_iff opens⟩

/-- A project whose second icon is broken. -/
def broken : FileSystem :=
  { entries :=
      [(["icons".toList], .directory),
        (["icons".toList, "a.svg".toList],
          .file (.text "<svg xmlns=\"http://www.w3.org/2000/svg\"/>".toList)),
        (["icons".toList, "b.svg".toList], .file (.text "<svg".toList)),
        (["icons".toList, "c.svg".toList],
          .file (.text "<svg xmlns=\"http://www.w3.org/2000/svg\"/>".toList)),
        (["icon.hbs".toList], .file (.text "<svg/>".toList))]
    current := [] }

/-- The configuration for the project. -/
def brokenConfig : Config :=
  { Config.default with
    entry := "icons/*.svg".toList, output := "out/new".toList, template := some "icon.hbs".toList }

/-- The run stops at the second icon and leaves the component of the first one. -/
theorem broken_second :
    (generate brokenConfig broken).result =
        .error (.notAnIcon "icons/b.svg".toList (.document "<svg".toList .noRoot)) ∧
      (Engines.standard.generateSelected brokenConfig broken ["icons/a.svg".toList]).result =
        .ok ⟨["out/new/A.tsx".toList], []⟩ ∧
      ∀ location content,
        (generate brokenConfig broken).files.entry? location = some (.file content) ↔
          (Engines.standard.generateSelected brokenConfig broken
            ["icons/a.svg".toList]).files.entry? location = some (.file content) := by
  have failed : (generate brokenConfig broken).result =
      .error (.notAnIcon "icons/b.svg".toList (.document "<svg".toList .noRoot)) := by
    decide +kernel
  have first : (Engines.standard.generateSelected brokenConfig broken ["icons/a.svg".toList]).result =
      .ok ⟨["out/new/A.tsx".toList], []⟩ := by decide +kernel
  have changed : (generate brokenConfig broken).files ≠ broken := by decide +kernel
  have icons : selectIcons broken brokenConfig.entry =
      .ok ["icons/a.svg".toList, "icons/b.svg".toList, "icons/c.svg".toList] := by decide +kernel
  refine ⟨failed, first, ?_⟩
  rcases generate_failed failed with
    ⟨-, same⟩ | ⟨before, icon, after, template, selected, -, -, -, stopped, -, same⟩
  · exact absurd same changed
  · obtain rfl := path_of_notAnIcon stopped
    rw [selected] at icons
    obtain ⟨rfl, rfl⟩ : before = ["icons/a.svg".toList] ∧ after = ["icons/c.svg".toList] := by
      rcases before with _ | ⟨_, _ | ⟨_, _ | ⟨_, _⟩⟩⟩ <;> simp_all
    exact same

end IconComponents.Generation
