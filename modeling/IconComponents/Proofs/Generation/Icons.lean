/-
**What becomes of a file while icons are generated.**

Icon after icon, the output directory is made and one component is written where its path leads.
Directories come and files are written, so a path leads all along where it leads once the output
directory has been made.

* `generateIcon_cases` — an icon comes to an error, or to one file;
* `Ready` — what stays true of the files of a run;
* `generateAll_fate` — a file is kept or replaced by a component whose path leads to it;
* `generate_cases` — a whole run ends early, has nothing to do, or goes through icons.
-/

import IconComponents.Generation.Run
import IconComponents.Proofs.FileSystem.Change

namespace IconComponents.Generation

open FileSystem

variable {engines : Engines} {config : Config} {template : engines.Template}
  {files between more made : FileSystem} {location : Location} {content : Content}
  {icon name path source : Text}
  {icons taken : List Text}

/-! ### One icon -/

/-- The file of an icon's component. -/
def componentFile (engines : Engines) (config : Config) (icon : Text) : Text :=
  componentPath config.output (engines.componentName config icon) config.extension

/-- A source of an icon's component. -/
def IsSource (config : Config) (template : engines.Template) (icon source : Text) : Prop :=
  ∃ content minified,
    engines.minify content icon (engines.idStart (engines.componentName config icon)) = .ok minified ∧
      engines.synthesize template minified (engines.componentName config icon) = .ok source

/-- The source that is made of an icon's content. -/
def IsMade (config : Config) (template : engines.Template) (icon : Text) (content : Content)
    (source : Text) : Prop :=
  ∃ minified, engines.minify content icon (engines.idStart (engines.componentName config icon)) =
    .ok minified ∧
    engines.synthesize template minified (engines.componentName config icon) = .ok source

theorem IsMade.isSource (made : IsMade config template icon content source) :
    IsSource config template icon source := ⟨content, made⟩

/-- An icon is read and its component written. -/
structure Writes (config : Config) (template : engines.Template) (icon : Text) (content : Content)
    (source : Text) (files more : FileSystem) : Prop where
  read : files.read? icon = some content
  made : IsMade config template icon content source
  written : ∃ between, files.makeDirectories config.output = (true, between) ∧
    between.write? (componentFile engines config icon) (.text source) = some more

/-- What comes of one icon: an error and at most the output directory, or its component. -/
theorem generateIcon_cases (config : Config) (template : engines.Template) (files : FileSystem)
    (icon : Text) :
    (∃ error, (engines.generateIcon config template files icon
        (engines.componentName config icon)).result = .error error ∧
        ((engines.generateIcon config template files icon
            (engines.componentName config icon)).files = files ∨
          (engines.generateIcon config template files icon (engines.componentName config icon)).files =
            (files.makeDirectories config.output).2)) ∨
      (∃ content source, Writes config template icon content source files
          (engines.generateIcon config template files icon (engines.componentName config icon)).files) ∧
        (engines.generateIcon config template files icon (engines.componentName config icon)).result =
          .ok (componentFile engines config icon) := by
  unfold Engines.generateIcon
  split
  · exact Or.inl ⟨_, rfl, Or.inl rfl⟩
  · next content read =>
    split
    · exact Or.inl ⟨_, rfl, Or.inl rfl⟩
    · next minified minify =>
      split
      · exact Or.inl ⟨_, rfl, Or.inl rfl⟩
      · next source synthesized =>
        rw [writeComponent]
        cases making : files.makeDirectories config.output with
        | mk made between =>
          cases made with
          | false => exact Or.inl ⟨_, rfl, Or.inr rfl⟩
          | true =>
            simp only
            split
            · next more written =>
              exact Or.inr ⟨⟨content, source, read, ⟨minified, minify, synthesized⟩, between,
                making, written⟩, rfl⟩
            · exact Or.inl ⟨_, rfl, Or.inr rfl⟩

/-! ### The files of a run -/

/-- During a run the output directory is made once: making it again comes to `made` and to files
that were written since. -/
structure Ready (config : Config) (made files : FileSystem) : Prop where
  grows : Grows made (files.makeDirectories config.output).2
  same : SameDirectories made (files.makeDirectories config.output).2

/-- The output directory is ready once it is made. -/
theorem Ready.start (config : Config) (files : FileSystem) :
    Ready config (files.makeDirectories config.output).2 files :=
  ⟨Grows.refl _, fun _ there => there⟩

/-- The output directory stays ready when something is written. -/
theorem Ready.write (ready : Ready config made files)
    (making : files.makeDirectories config.output = (true, between))
    (written : between.write? path content = some more) : Ready config made more := by
  obtain ⟨location, below, rfl, led⟩ := write?_eq_some written
  have noDirectory : between.entry? location ≠ some .directory := by
    rcases led with ⟨-, old, there⟩ | ⟨-, free⟩
    · rw [there]
      exact fun same => by cases same
    · rw [free]
      exact fun same => by cases same
  have grows := grows_put_file below noDirectory content
  have again : (between.put location (.file content)).makeDirectories config.output =
      (true, between.put location (.file content)) := by
    refine makeDirectories_eq_self ?_
    by_cases empty : config.output = []
    · exact Or.inl empty
    · obtain ⟨place, found, directory⟩ := isDirectory_iff.mp (isDirectory_makeDirectories empty making)
      exact Or.inr (isDirectory_iff.mpr ⟨place, grows.locate found, grows.directory place directory⟩)
  obtain ⟨before, kind⟩ := ready
  rw [making] at before kind
  constructor
  · rw [again]
    exact before.trans grows
  · rw [again]
    exact fun other there => kind other (sameDirectories_put_file below content other there)

/-- **A component replaces the file that its path leads to, and no other.** -/
theorem Ready.entry?_write {old : Content} (ready : Ready config made files)
    (making : files.makeDirectories config.output = (true, between))
    (written : between.write? path content = some more) (stood : (made.entry? location).isSome = true)
    (there : between.entry? location = some (.file old)) :
    (made.locate path = .ok location ∧ more.entry? location = some (.file content)) ∨
      (made.locate path ≠ .ok location ∧ more.entry? location = some (.file old)) := by
  obtain ⟨grows, same⟩ := ready
  rw [making] at grows same
  by_cases leads : made.locate path = .ok location
  · rw [write?_of_file (grows.locate leads) there] at written
    cases written
    refine Or.inl ⟨leads, ?_⟩
    rw [entry?_put, if_pos rfl]
    rintro rfl
    rw [entry?_root] at there
    cases there
  · refine Or.inr ⟨leads, ?_⟩
    obtain ⟨place, below, rfl, led⟩ := write?_eq_some written
    rw [entry?_put below, if_neg, there]
    rintro rfl
    rcases led with ⟨found, -⟩ | ⟨-, free⟩
    · exact leads (locate_of_sameDirectories grows same stood found)
    · rw [there] at free
      cases free

/-! ### All icons -/

/-- An icon whose name is not taken and whose component's path leads to a location. -/
structure Leads (engines : Engines) (config : Config) (made : FileSystem) (taken : List Text)
    (location : Location) (icon : Text) : Prop where
  free : engines.componentName config icon ∉ taken
  found : made.locate (componentFile engines config icon) = .ok location

theorem Leads.of_cons (leads : Leads engines config made (name :: taken) location icon) :
    Leads engines config made taken location icon :=
  ⟨fun member => leads.free (List.mem_cons_of_mem _ member), leads.found⟩

theorem Leads.cons {written : Text} (leads : Leads engines config made taken location icon)
    (elsewhere : made.locate (componentFile engines config written) ≠ .ok location) :
    Leads engines config made (engines.componentName config written :: taken) location icon := by
  refine ⟨fun member => ?_, leads.found⟩
  rcases List.mem_cons.mp member with same | member
  · refine elsewhere ?_
    rw [componentFile, ← same]
    exact leads.found
  · exact leads.free member

/-- The component of such an icon of a list. -/
def IsComponent (config : Config) (template : engines.Template) (made : FileSystem)
    (icons taken : List Text) (location : Location) (held : Option Entry) : Prop :=
  ∃ icon ∈ icons, Leads engines config made taken location icon ∧
    ∃ source, IsSource config template icon source ∧ held = some (.file (.text source))

/-- A component of some icons is one of more. -/
theorem IsComponent.cons {held : Option Entry}
    (component : IsComponent config template made icons (name :: taken) location held) :
    IsComponent config template made (icon :: icons) taken location held := by
  obtain ⟨other, member, leads, written⟩ := component
  exact ⟨other, List.mem_cons_of_mem _ member, leads.of_cons, written⟩

/-- What may come of a file in a run: it is kept or it is replaced by a component, and it is
replaced if the run succeeds and there is an icon to replace it. -/
structure Fate (config : Config) (template : engines.Template) (made : FileSystem)
    (icons taken : List Text) (location : Location) (content : Content)
    (outcome : Outcome GenerationError Summary) : Prop where
  kept_or : outcome.files.entry? location = some (.file content) ∨
    IsComponent config template made icons taken location (outcome.files.entry? location)
  replaced : ∀ summary, outcome.result = .ok summary →
    (∃ icon ∈ icons, Leads engines config made taken location icon) →
      IsComponent config template made icons taken location (outcome.files.entry? location)

variable {outcome : Outcome GenerationError Summary} {actions : List Console.Action}
  {change : Summary → Summary}

theorem Fate.behind (fate : Fate config template made icons taken location content outcome) :
    Fate config template made icons taken location content (Outcome.behind actions outcome) :=
  ⟨fate.kept_or, fate.replaced⟩

theorem Fate.map (fate : Fate config template made icons taken location content outcome) :
    Fate config template made icons taken location content (outcome.map change) := by
  refine ⟨fate.kept_or, fun summary succeeded leads => ?_⟩
  obtain ⟨before, succeeded, -⟩ := Outcome.result_map_eq_ok.mp succeeded
  exact fate.replaced before succeeded leads

/-- An icon is skipped. -/
theorem Fate.skip (seen : engines.componentName config icon ∈ taken)
    (fate : Fate config template made icons taken location content outcome) :
    Fate config template made (icon :: icons) taken location content outcome := by
  have more : ∀ held, IsComponent config template made icons taken location held →
      IsComponent config template made (icon :: icons) taken location held := by
    rintro held ⟨other, member, written⟩
    exact ⟨other, List.mem_cons_of_mem _ member, written⟩
  refine ⟨fate.kept_or.imp_right (more _), fun summary succeeded leads => more _ ?_⟩
  obtain ⟨other, member, leads⟩ := leads
  rcases List.mem_cons.mp member with rfl | member
  · exact absurd seen leads.free
  · exact fate.replaced summary succeeded ⟨other, member, leads⟩

/-- A component is written to the file. -/
theorem Fate.write (leads : Leads engines config made taken location icon)
    (written : IsSource config template icon source)
    (fate : Fate config template made icons (engines.componentName config icon :: taken) location
      (.text source) outcome) :
    Fate config template made (icon :: icons) taken location content outcome := by
  have component : IsComponent config template made (icon :: icons) taken location
      (outcome.files.entry? location) := by
    rcases fate.kept_or with there | component
    · exact ⟨icon, List.mem_cons_self, leads, source, written, there⟩
    · exact component.cons
  exact ⟨Or.inr component, fun _ _ _ => component⟩

/-- A component is written elsewhere. -/
theorem Fate.write_elsewhere
    (elsewhere : made.locate (componentFile engines config icon) ≠ .ok location)
    (fate : Fate config template made icons (engines.componentName config icon :: taken) location
      content outcome) :
    Fate config template made (icon :: icons) taken location content outcome := by
  refine ⟨fate.kept_or.imp_right IsComponent.cons, fun summary succeeded leads => ?_⟩
  obtain ⟨other, member, leads⟩ := leads
  rcases List.mem_cons.mp member with rfl | member
  · exact absurd leads.found elsewhere
  · exact (fate.replaced summary succeeded ⟨other, member, leads.cons elsewhere⟩).cons

/-- **What comes of a file in a run**, icon by icon. -/
theorem generateAll_fate (once : config.rewrite = false) (ready : Ready config made files)
    (stood : (made.entry? location).isSome = true)
    (there : files.entry? location = some (.file content)) :
    Fate config template made icons taken location content
      (engines.generateAll config template icons taken files) := by
  induction icons generalizing taken files content with
  | nil =>
    refine ⟨Or.inl there, fun _ _ leads => ?_⟩
    obtain ⟨icon, member, -⟩ := leads
    cases member
  | cons icon icons ih =>
    rw [Engines.generateAll]
    simp only [once, Bool.not_false, Bool.true_and]
    split
    · next seen => exact (ih ready there).map.behind.skip (List.elem_iff.mp seen)
    · next unseen =>
      have free : engines.componentName config icon ∉ taken :=
        fun seen => unseen (List.elem_iff.mpr seen)
      rcases generateIcon_cases config template files icon with
        ⟨error, failed, only⟩ | ⟨⟨read, source, -, made, between, making, written⟩, succeeded⟩
      · rw [Outcome.andThen_of_error failed]
        refine ⟨Or.inl ?_, fun _ succeeded => by cases succeeded⟩
        rcases only with same | same
        · rwa [same]
        · rw [same]
          exact (makeDirectories_adds files config.output).kept location _ there
      · rw [Outcome.andThen_of_ok succeeded]
        have adds := makeDirectories_adds files config.output
        rw [making] at adds
        have next := ready.write making written
        rcases ready.entry?_write making written stood (adds.kept location _ there) with
          ⟨leads, now⟩ | ⟨elsewhere, now⟩
        · exact Fate.write ⟨free, leads⟩ made.isSource (ih next now).map.behind.behind.behind
        · exact (ih next now).map.behind.behind.behind.write_elsewhere elsewhere

/-! ### Whole runs -/

/-- Why a run ends before its first icon: there is no pattern, it is malformed, or there are icons
but the template cannot be used. -/
inductive EndsEarly (engines : Engines) (config : Config) (files : FileSystem) :
    GenerationError → Prop where
  | noEntry (blank : Text.isBlank config.entry = true) : EndsEarly engines config files .noEntry
  | noSelection {error : GenerationError}
      (refused : selectIcons files config.entry = .error error) : EndsEarly engines config files error
  | noTemplate {error : GenerationError} {icons : List Text}
      (selected : selectIcons files config.entry = .ok icons) (some : icons ≠ [])
      (refused : engines.loadTemplate files config.template = .error error) :
      EndsEarly engines config files error

/-- What a run comes to: it ends early, it has nothing to do, or it goes through icons. -/
theorem generate_cases (engines : Engines) (config : Config) (files : FileSystem) :
    (∃ error, EndsEarly engines config files error ∧
        (engines.generate config files).result = .error error ∧
        (engines.generate config files).files = files) ∨
      (selectIcons files config.entry = .ok [] ∧ (engines.generate config files).result = .ok ⟨[], []⟩ ∧
        (engines.generate config files).files = files) ∨
      ∃ icons template, icons ≠ [] ∧ selectIcons files config.entry = .ok icons ∧
        engines.loadTemplate files config.template = .ok template ∧
        (engines.generate config files).result =
          (engines.generateAll config template icons (takenNames files config.output) files).result ∧
        (engines.generate config files).files =
          (engines.generateAll config template icons (takenNames files config.output) files).files := by
  unfold Engines.generate
  split
  · next blank => exact Or.inl ⟨_, .noEntry blank, rfl, rfl⟩
  · split
    · next error refused => exact Or.inl ⟨_, .noSelection refused, rfl, rfl⟩
    · next icons selected =>
      unfold Engines.generateSelected
      split
      · next none =>
        obtain rfl := List.isEmpty_iff.mp none
        exact Or.inr (Or.inl ⟨selected, rfl, rfl⟩)
      · next some =>
        have some : icons ≠ [] := fun none => some (List.isEmpty_iff.mpr none)
        split
        · next error refused => exact Or.inl ⟨_, .noTemplate selected some refused, rfl, rfl⟩
        · next template loaded =>
          exact Or.inr (Or.inr ⟨icons, template, some, selected, loaded, rfl, rfl⟩)

end IconComponents.Generation
