/-
**Which contents a run depends on.**

A run reads its template and the icons that are due. Over other files of the same shape, with the
same template and the same icons, it does the same, and what neither run writes stays as it was.

* `Abreast` — two runs side by side;
* `Alike` — the same work was done over both;
* `generateAll_alike` — icon by icon; `generate_alike` — whole runs.
-/

import IconComponents.Proofs.FileSystem.Skeleton
import IconComponents.Proofs.Generation.Components

namespace IconComponents.Generation

open FileSystem

variable {engines : Engines} {config : Config} {template : engines.Template}
  {files other now now' more : FileSystem}
  {path icon name : Text} {content : Content} {icons taken : List Text} {ε ε' α β : Type}

/-! ### Two runs side by side -/

/-- **Two runs side by side**, over `files` and over `other`: what is there has the same shape, and
an entry is the same in both or in both as it was. -/
structure Abreast (files other now now' : FileSystem) : Prop where
  shape : now'.skeleton = now.skeleton
  entry : ∀ location, now'.entry? location = now.entry? location ∨
    (now.entry? location = files.entry? location ∧ now'.entry? location = other.entry? location)

theorem Abreast.start (shape : other.skeleton = files.skeleton) : Abreast files other files other :=
  ⟨shape, fun _ => Or.inr ⟨rfl, rfl⟩⟩

/-- A path leads to the same entry in both. -/
def Shared (files other : FileSystem) (path : Text) : Prop :=
  ∃ location, files.locate path = .ok location ∧ other.entry? location = files.entry? location

theorem shared_of_read? (shape : other.skeleton = files.skeleton)
    (there : files.read? path = some content) (same : other.read? path = files.read? path) :
    Shared files other path := by
  obtain ⟨location, led, held⟩ := read?_eq_some_iff.mp there
  obtain ⟨place, led', held'⟩ := read?_eq_some_iff.mp (same.trans there)
  rw [locate_of_shape shape, led] at led'
  cases led'
  exact ⟨location, led, held'.trans held.symm⟩

/-- What both file systems share is read alike while they change abreast. -/
theorem Abreast.read? (abreast : Abreast files other now now') (grows : Grows files now)
    (shared : Shared files other path) : now'.read? path = now.read? path := by
  obtain ⟨location, led, same⟩ := shared
  have found := grows.locate led
  have equal : now'.entry? location = now.entry? location := by
    rcases abreast.entry location with equal | ⟨before, before'⟩
    · exact equal
    · rw [before, before', same]
  rw [FileSystem.read?, find?, locate_of_shape abreast.shape, found, FileSystem.read?, find?, found]
  simp only [equal]

/-! ### The same work over both -/

/-- The same work was done in both runs. -/
structure Alike (files other : FileSystem) (outcome outcome' : Outcome ε α) : Prop where
  actions : outcome'.actions = outcome.actions
  result : outcome'.result = outcome.result
  files : Abreast files other outcome.files outcome'.files

theorem Alike.done (abreast : Abreast files other now now') (value : α) :
    Alike files other (.done now value : Outcome ε α) (.done now' value) := ⟨rfl, rfl, abreast⟩

theorem Alike.failed (abreast : Abreast files other now now') (error : ε) :
    Alike files other (.failed now error : Outcome ε α) (.failed now' error) := ⟨rfl, rfl, abreast⟩

theorem Alike.behind {outcome outcome' : Outcome ε α} (alike : Alike files other outcome outcome')
    (actions : List Console.Action) :
    Alike files other (outcome.behind actions) (outcome'.behind actions) :=
  ⟨congrArg (actions ++ ·) alike.actions, alike.result, alike.files⟩

theorem Alike.map {outcome outcome' : Outcome ε α} (alike : Alike files other outcome outcome')
    (f : α → β) : Alike files other (outcome.map f) (outcome'.map f) :=
  ⟨alike.actions, congrArg (Except.map f) alike.result, alike.files⟩

theorem Alike.mapError {outcome outcome' : Outcome ε α} (alike : Alike files other outcome outcome')
    (f : ε → ε') : Alike files other (outcome.mapError f) (outcome'.mapError f) :=
  ⟨alike.actions, congrArg (Except.mapError f) alike.result, alike.files⟩

/-- Outcomes that are alike go on alike. -/
theorem Alike.andThen {outcome outcome' : Outcome ε α} {next : FileSystem → α → Outcome ε β}
    (alike : Alike files other outcome outcome')
    (others : ∀ value, outcome.result = .ok value →
      Alike files other (next outcome.files value) (next outcome'.files value)) :
    Alike files other (outcome.andThen next) (outcome'.andThen next) := by
  cases result : outcome.result with
  | error error =>
    rw [Outcome.andThen_of_error result, Outcome.andThen_of_error (alike.result.trans result)]
    exact ⟨alike.actions, rfl, alike.files⟩
  | ok value =>
    rw [Outcome.andThen_of_ok result, Outcome.andThen_of_ok (alike.result.trans result),
      alike.actions]
    exact (others value result).behind outcome.actions

theorem Alike.counted {work work' : Outcome GenerationError Summary}
    (alike : Alike files other work work') (total : Nat) :
    Alike files other (counted total work) (counted total work') := by
  refine ⟨?_, alike.result, alike.files⟩
  simp only [Generation.counted, alike.actions, alike.result]

/-! ### Files -/

/-- A directory that is new in one run is new in the other one. -/
theorem Abreast.makeDirectories (abreast : Abreast files other now now') (path : Text) :
    (now'.makeDirectories path).1 = (now.makeDirectories path).1 ∧
      Abreast files other (now.makeDirectories path).2 (now'.makeDirectories path).2 := by
  have both := makeDirectories_skeleton now' path
  rw [abreast.shape, makeDirectories_skeleton] at both
  obtain ⟨made, shape⟩ := Prod.mk.inj both
  refine ⟨made.symm, shape.symm, fun location => ?_⟩
  have blank := congrArg (FileSystem.entry? · location) shape
  simp only [entry?_skeleton] at blank
  rcases (makeDirectories_opens now path).entry location with kept | ⟨-, new, -⟩
  · rcases (makeDirectories_opens now' path).entry location with kept' | ⟨-, new', -⟩
    · rw [kept, kept']
      exact abreast.entry location
    · rw [new', Option.map_some, Option.map_eq_some_iff] at blank
      obtain ⟨entry, there, directory⟩ := blank
      rw [there, new', Entry.blank_eq_directory.mp directory]
      exact Or.inl rfl
  · rw [new, Option.map_some, eq_comm, Option.map_eq_some_iff] at blank
    obtain ⟨entry, there, directory⟩ := blank
    rw [there, new, Entry.blank_eq_directory.mp directory]
    exact Or.inl rfl

/-- What is written in one run is written in the other one, at the same place. -/
theorem Abreast.write? (abreast : Abreast files other now now') (path : Text) (content : Content) :
    (now.write? path content = none ∧ now'.write? path content = none) ∨
      ∃ more more', now.write? path content = some more ∧ now'.write? path content = some more' ∧
        Abreast files other more more' := by
  have both := write?_skeleton now' path content
  rw [abreast.shape, write?_skeleton now path content] at both
  cases written : now.write? path content with
  | none =>
    rw [written, Option.map_none, eq_comm, Option.map_eq_none_iff] at both
    exact Or.inl ⟨rfl, both⟩
  | some more =>
    rw [written, Option.map_some, eq_comm, Option.map_eq_some_iff] at both
    obtain ⟨more', written', shape⟩ := both
    refine Or.inr ⟨more, more', rfl, written', shape, fun location => ?_⟩
    obtain ⟨place, below, rfl, -, -, led⟩ := write?_places written
    obtain ⟨place', below', rfl, -, -, led'⟩ := write?_places written'
    rw [locate_of_shape shape, led] at led'
    cases led'
    rw [entry?_put below, entry?_put below]
    split
    · exact Or.inl rfl
    · exact abreast.entry location

/-- A component is written alike. -/
theorem Abreast.writeComponent (abreast : Abreast files other now now')
    (output name extension source : Text) :
    Alike files other (writeComponent now output name extension source)
      (writeComponent now' output name extension source) := by
  obtain ⟨same, opened⟩ := abreast.makeDirectories output
  unfold IconComponents.writeComponent
  cases making : now.makeDirectories output with
  | mk made between =>
    cases making' : now'.makeDirectories output with
    | mk made' between' =>
      rw [making, making'] at same opened
      cases same
      cases made with
      | false => exact .failed opened _
      | true =>
        simp only
        rcases opened.write? (componentPath output name extension) (.text source) with
          ⟨none, none'⟩ | ⟨more, more', some, some', written⟩
        · rw [none, none']
          exact .failed opened _
        · rw [some, some']
          exact .done written _

/-! ### Icons -/

/-- An icon is turned into a component alike. -/
theorem Abreast.generateIcon (abreast : Abreast files other now now') (grows : Grows files now)
    (shared : Shared files other icon) (config : Config) (template : engines.Template) (name : Text) :
    Alike files other (engines.generateIcon config template now icon name)
      (engines.generateIcon config template now' icon name) := by
  unfold Engines.generateIcon
  rw [abreast.read? grows shared]
  split
  · exact .failed abreast _
  · split
    · exact .failed abreast _
    · refine Alike.behind ?_ _
      split
      · exact .failed abreast _
      · exact (abreast.writeComponent _ _ _ _).mapError _

/-- An icon takes nothing away, also if it fails. -/
theorem generateIcon_grows (config : Config) (template : engines.Template) (now : FileSystem)
    (icon : Text) :
    Grows now
      (engines.generateIcon config template now icon (engines.componentName config icon)).files := by
  rcases generateIcon_cases config template now icon with
    ⟨_, -, same | same⟩ | ⟨⟨_, _, write⟩, -⟩
  · rw [same]
    exact Grows.refl now
  · rw [same]
    exact (makeDirectories_adds now config.output).grows
  · exact write.grows

/-- **Two runs do the same** if the icons that are due are the same in both. -/
theorem generateAll_alike (abreast : Abreast files other now now') (grows : Grows files now)
    (shared : ∀ icon ∈ due engines config taken icons, Shared files other icon) :
    Alike files other (engines.generateAll config template icons taken now)
      (engines.generateAll config template icons taken now') := by
  induction icons generalizing taken now now' with
  | nil => exact .done abreast _
  | cons icon icons ih =>
    unfold Engines.generateAll
    by_cases isDue : IsDue engines config taken [] icon
    · rw [due_cons_of_due isDue, List.forall_mem_cons] at shared
      simp only [isDue_nil_iff.mp isDue]
      refine Alike.behind (Alike.andThen (abreast.generateIcon grows shared.1 _ _ _) ?_) _
      intro written succeeded
      have next := (abreast.generateIcon grows shared.1 config template
        (engines.componentName config icon)).files
      exact ((ih next (grows.trans (generateIcon_grows config template now icon))
        shared.2).map _).behind _
    · rw [due_cons_of_not_due isDue] at shared
      simp only [not_not.mp (isDue_nil_iff.not.mp isDue), if_true]
      exact ((ih abreast grows shared).map _).behind _

/-! ### Whole runs -/

/-- The same icons are selected in file systems of one shape. -/
theorem selectIcons_of_shape (shape : other.skeleton = files.skeleton) (entry : Text) :
    selectIcons other entry = selectIcons files entry := by
  have isFile : other.isFile = files.isFile := by
    funext path
    rw [← isFile_skeleton, shape, isFile_skeleton]
  unfold selectIcons
  split
  · rw [← expand_skeleton, shape, expand_skeleton, isFile]
  · rfl

/-- The same names are taken in file systems of one shape. -/
theorem takenNames_of_shape (shape : other.skeleton = files.skeleton) (output : Text) :
    takenNames other output = takenNames files output := by
  have names : other.names = files.names := by
    funext directory
    rw [← names_skeleton, shape, names_skeleton]
  have isFile : ∀ location, (other.entry? location).any (· != .directory) =
      (files.entry? location).any (· != .directory) := by
    intro location
    have blank := congrArg (FileSystem.entry? · location) shape
    simp only [entry?_skeleton] at blank
    rcases there : other.entry? location with _ | _ | _ <;>
      rcases there' : files.entry? location with _ | _ | _ <;>
      rw [there, there'] at blank <;> first | rfl | cases blank
  unfold takenNames
  rw [locate_of_shape shape, names]
  simp only [isFile]

/-- **Whole runs do the same** if the template and the icons that are due are the same in both. -/
theorem generate_alike (shape : other.skeleton = files.skeleton)
    (template : engines.loadTemplate other config.template = engines.loadTemplate files config.template)
    (reads : ∀ icons, selectIcons files config.entry = .ok icons →
      ∀ icon ∈ due engines config (takenNames files config.output) icons,
        other.read? icon = files.read? icon) :
    Alike files other (engines.generate config files) (engines.generate config other) := by
  have abreast := Abreast.start shape
  unfold Engines.generate
  split
  · exact .failed abreast _
  · refine Alike.behind ?_ _
    rw [selectIcons_of_shape shape]
    split
    · exact .failed abreast _
    · next icons selected =>
      unfold Engines.generateSelected
      split
      · exact (Alike.done abreast _).behind _
      · rw [template]
        split
        · exact .failed abreast _
        · rw [takenNames_of_shape shape]
          refine Alike.counted (generateAll_alike abreast (Grows.refl files) ?_) _
          intro icon member
          obtain ⟨content, there⟩ :=
            read?_of_selected selected ((due_sublist _ _ _ _).subset member)
          exact shared_of_read? shape there (reads icons selected icon member)

end IconComponents.Generation
