/-
**Icons one after the other.**

A run that succeeds reads each icon that is due and writes its component, one after the other; a run
that fails does so up to the icon that fails.

* `Generates` — the components of some icons are written one after the other;
* `generateAll_cases` — a run generates the icons that are due, or it fails at one of them after a
  run over those before it has succeeded;
* `Generates.entry?` — what may have become of an entry;
* `Generates.holds` — a component is in its file unless a later one has the same file.
-/

import IconComponents.Proofs.FileSystem.Arrival
import IconComponents.Proofs.Generation.Selection

namespace IconComponents.Generation

open FileSystem

variable {engines : Engines} {config : Config} {template : engines.Template}
  {files between more last made : FileSystem} {location : Location} {content : Content}
  {icon source : Text} {icons before after taken : List Text}

/-! ### Steps of a run -/

/-- An icon that is not due is passed. -/
theorem generateAll_of_not_due (template : engines.Template) (icons : List Text) (files : FileSystem)
    (skipped : ¬ IsDue engines config taken [] icon) :
    (engines.generateAll config template (icon :: icons) taken files).files =
        (engines.generateAll config template icons taken files).files ∧
      (engines.generateAll config template (icon :: icons) taken files).result =
        (engines.generateAll config template icons taken files).result.map fun summary =>
          { summary with skipped := engines.componentName config icon :: summary.skipped } := by
  rw [isDue_nil_iff, not_not] at skipped
  rw [Engines.generateAll]
  simp only [skipped, if_true]
  exact ⟨rfl, rfl⟩

/-- An icon that fails ends the run. -/
theorem generateAll_of_error {error : GenerationError} (icons : List Text)
    (isDue : IsDue engines config taken [] icon)
    (failed : (engines.generateIcon config template files icon
      (engines.componentName config icon)).result = .error error) :
    (engines.generateAll config template (icon :: icons) taken files).files =
        (engines.generateIcon config template files icon (engines.componentName config icon)).files ∧
      (engines.generateAll config template (icon :: icons) taken files).result = .error error := by
  rw [isDue_nil_iff, Bool.not_eq_true] at isDue
  rw [Engines.generateAll]
  simp only [isDue, Bool.false_eq_true, if_false]
  rw [Outcome.andThen_of_error failed]
  exact ⟨rfl, rfl⟩

/-- An icon that succeeds is followed by the others. -/
theorem generateAll_of_ok {written : Text} (icons : List Text)
    (isDue : IsDue engines config taken [] icon)
    (succeeded : (engines.generateIcon config template files icon
      (engines.componentName config icon)).result = .ok written) :
    (engines.generateAll config template (icon :: icons) taken files).files =
        (engines.generateAll config template icons (engines.componentName config icon :: taken)
          (engines.generateIcon config template files icon
            (engines.componentName config icon)).files).files ∧
      (engines.generateAll config template (icon :: icons) taken files).result =
        (engines.generateAll config template icons (engines.componentName config icon :: taken)
          (engines.generateIcon config template files icon
            (engines.componentName config icon)).files).result.map
            fun summary => { summary with generated := written :: summary.generated } := by
  rw [isDue_nil_iff, Bool.not_eq_true] at isDue
  rw [Engines.generateAll]
  simp only [isDue, Bool.false_eq_true, if_false]
  rw [Outcome.andThen_of_ok succeeded]
  exact ⟨rfl, rfl⟩

/-! ### Runs that succeed -/

/-- The components of icons are written one after the other. -/
inductive Generates (config : Config) (template : engines.Template) :
    List Text → FileSystem → FileSystem → Prop where
  | done (files : FileSystem) : Generates config template [] files files
  | next {icon : Text} {content : Content} {source : Text} {icons : List Text}
      {files between more : FileSystem}
      (write : Writes config template icon content source files between)
      (others : Generates config template icons between more) :
      Generates config template (icon :: icons) files more

/-- A run over icons succeeds: those that are due are generated, the others are skipped. -/
structure Succeeds (config : Config) (template : engines.Template) (icons taken : List Text)
    (files : FileSystem) (outcome : Outcome GenerationError Summary) : Prop where
  result : outcome.result = .ok
    ⟨(due engines config taken icons).map (componentFile engines config),
      (passed engines config taken icons).map (engines.componentName config)⟩
  files : Generates config template (due engines config taken icons) files outcome.files

/-- A run succeeds if its first icon does, and then the others. -/
theorem Succeeds.cons_of_due (isDue : IsDue engines config taken [] icon)
    (write : Writes config template icon content source files
      (engines.generateIcon config template files icon (engines.componentName config icon)).files)
    (succeeded : (engines.generateIcon config template files icon
      (engines.componentName config icon)).result = .ok (componentFile engines config icon))
    (others : Succeeds config template icons (engines.componentName config icon :: taken)
      (engines.generateIcon config template files icon (engines.componentName config icon)).files
      (engines.generateAll config template icons (engines.componentName config icon :: taken)
        (engines.generateIcon config template files icon (engines.componentName config icon)).files)) :
    Succeeds config template (icon :: icons) taken files
      (engines.generateAll config template (icon :: icons) taken files) := by
  obtain ⟨same, result⟩ := generateAll_of_ok icons isDue succeeded
  constructor
  · rw [result, others.result, due_cons_of_due isDue, passed_cons_of_due isDue]
    rfl
  · rw [same, due_cons_of_due isDue]
    exact .next write others.files

/-- A run succeeds without an icon that is not due. -/
theorem Succeeds.cons_of_not_due (skipped : ¬ IsDue engines config taken [] icon)
    (others : Succeeds config template icons taken files
      (engines.generateAll config template icons taken files)) :
    Succeeds config template (icon :: icons) taken files
      (engines.generateAll config template (icon :: icons) taken files) := by
  obtain ⟨same, result⟩ := generateAll_of_not_due template icons files skipped
  constructor
  · rw [result, others.result, due_cons_of_not_due skipped, passed_cons_of_not_due skipped]
    rfl
  · rw [same, due_cons_of_not_due skipped]
    exact others.files

/-! ### Runs that fail -/

/-- A run fails at an icon behind others: a run over those succeeds, and after it the icon is due and
fails. -/
structure FailsAt (config : Config) (template : engines.Template) (before : List Text) (icon : Text)
    (taken : List Text) (files : FileSystem) (outcome : Outcome GenerationError Summary) : Prop where
  earlier : ∃ summary, (engines.generateAll config template before taken files).result = .ok summary
  isDue : IsDue engines config taken before icon
  failed : ∃ error, outcome.result = .error error ∧
    (engines.generateIcon config template
      (engines.generateAll config template before taken files).files icon
      (engines.componentName config icon)).result = .error error
  files : outcome.files =
    (engines.generateIcon config template
      (engines.generateAll config template before taken files).files icon
      (engines.componentName config icon)).files

variable {other : Text}

/-- A run whose first step is another run fails where that one does. -/
theorem FailsAt.of_step {summarise : Summary → Summary} {taken' : List Text} {files' : FileSystem}
    (step : ∀ icons,
      (engines.generateAll config template (icon :: icons) taken files).files =
          (engines.generateAll config template icons taken' files').files ∧
        (engines.generateAll config template (icon :: icons) taken files).result =
          (engines.generateAll config template icons taken' files').result.map summarise)
    (later : IsDue engines config taken (icon :: before) other)
    (fails : FailsAt config template before other taken' files'
      (engines.generateAll config template icons taken' files')) :
    FailsAt config template (icon :: before) other taken files
      (engines.generateAll config template (icon :: icons) taken files) := by
  obtain ⟨⟨summary, earlier⟩, -, ⟨error, raised, failed⟩, stopped⟩ := fails
  obtain ⟨same, result⟩ := step icons
  obtain ⟨same', result'⟩ := step before
  refine ⟨?_, later, ⟨error, ?_, ?_⟩, ?_⟩
  · rw [result', earlier]
    exact ⟨_, rfl⟩
  · rw [result, raised]
    rfl
  · rw [same']
    exact failed
  · rw [same, same', stopped]

/-- A run fails later if its first icon succeeds. -/
theorem FailsAt.cons_of_due {written : Text} (isDue : IsDue engines config taken [] icon)
    (succeeded : (engines.generateIcon config template files icon
      (engines.componentName config icon)).result = .ok written)
    (fails : FailsAt config template before other (engines.componentName config icon :: taken)
      (engines.generateIcon config template files icon (engines.componentName config icon)).files
      (engines.generateAll config template icons (engines.componentName config icon :: taken)
        (engines.generateIcon config template files icon (engines.componentName config icon)).files)) :
    FailsAt config template (icon :: before) other taken files
      (engines.generateAll config template (icon :: icons) taken files) :=
  fails.of_step (fun icons => generateAll_of_ok icons isDue succeeded)
    (isDue_cons_iff.mpr fails.isDue)

theorem FailsAt.cons_of_not_due (skipped : ¬ IsDue engines config taken [] icon)
    (fails : FailsAt config template before other taken files
      (engines.generateAll config template icons taken files)) :
    FailsAt config template (icon :: before) other taken files
      (engines.generateAll config template (icon :: icons) taken files) :=
  fails.of_step (fun icons => generateAll_of_not_due template icons files skipped)
    ((isDue_cons_of_not_due skipped).mpr fails.isDue)

/-- **A run generates the icons that are due, or fails at one of them.** -/
theorem generateAll_cases (config : Config) (template : engines.Template) (icons taken : List Text)
    (files : FileSystem) :
    Succeeds config template icons taken files (engines.generateAll config template icons taken files) ∨
      ∃ before icon after, icons = before ++ icon :: after ∧
        FailsAt config template before icon taken files
          (engines.generateAll config template icons taken files) := by
  induction icons generalizing taken files with
  | nil => exact Or.inl ⟨rfl, .done files⟩
  | cons icon icons ih =>
    by_cases isDue : IsDue engines config taken [] icon
    · rcases generateIcon_cases config template files icon with
        ⟨error, failed, -⟩ | ⟨⟨content, source, write⟩, succeeded⟩
      · obtain ⟨same, result⟩ := generateAll_of_error icons isDue failed
        exact Or.inr ⟨[], icon, icons, rfl, ⟨_, rfl⟩, isDue, ⟨error, result, failed⟩, same⟩
      · rcases ih (engines.componentName config icon :: taken)
            (engines.generateIcon config template files icon
              (engines.componentName config icon)).files with
          others | ⟨before, other, after, rfl, fails⟩
        · exact Or.inl (others.cons_of_due isDue write succeeded)
        · exact Or.inr ⟨icon :: before, other, after, rfl, fails.cons_of_due isDue succeeded⟩
    · rcases ih taken files with others | ⟨before, other, after, rfl, fails⟩
      · exact Or.inl (others.cons_of_not_due isDue)
      · exact Or.inr ⟨icon :: before, other, after, rfl, fails.cons_of_not_due isDue⟩

end IconComponents.Generation
