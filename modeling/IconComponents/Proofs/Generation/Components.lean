/-
**The components that a run leaves.**

After the components of some icons were written one after the other, every path of a component leads
to a file, and every other entry is as before or a directory above the components.

* `Generates.fared` — what may have become of an entry;
* `Generates.holds` — a component is in its file unless a later one was written over it;
* `Generates.locate_ne` — with names and an extension without slashes different names have
  different files.
-/

import IconComponents.Proofs.Generation.Sequence

namespace IconComponents.Generation

open FileSystem

variable {engines : Engines} {config : Config} {template : engines.Template}
  {files between more last : FileSystem} {location : Location} {content : Content}
  {icon other source : Text}
  {icons before after : List Text}

/-! ### One component -/

/-- The output directory of a configuration and those above it, as it spells them. -/
def outputPaths (config : Config) : List Text := config.output :: Path.parents config.output

/-- **A component is written into the output directory**, which is opened for it. -/
theorem Writes.places (write : Writes config template icon content source files more) :
    ∃ between location, Opens (outputPaths config) files between ∧ location ≠ [] ∧
      between.entry? location ≠ some .directory ∧
      more = between.put location (.file (.text source)) ∧
      more.locate (componentFile engines config icon) = .ok location := by
  obtain ⟨between, making, written⟩ := write.written
  have opens := makeDirectories_opens files config.output
  rw [making] at opens
  obtain ⟨location, below, same, noDirectory, -, led⟩ := write?_places written
  exact ⟨between, location, opens, below, noDirectory, same, led⟩

theorem Writes.grows (write : Writes config template icon content source files more) :
    Grows files more := by
  obtain ⟨between, location, opens, below, noDirectory, rfl, -⟩ := write.places
  exact opens.adds.grows.trans (grows_put_file below noDirectory _)

/-- Writing a component keeps a tree. -/
theorem Writes.isTree (write : Writes config template icon content source files more)
    (tree : files.IsTree) : more.IsTree := by
  obtain ⟨between, making, written⟩ := write.written
  have adds := makeDirectories_adds files config.output
  rw [making] at adds
  exact write?_isTree (adds.isTree tree) written

/-! ### Components one after the other -/

/-- What may have become of an entry when the components of icons were written: it is as before, it
is the output directory or one above it and new, or it is the file of a component. -/
inductive Fared (engines : Engines) (config : Config) (icons : List Text) (files last : FileSystem)
    (location : Location) : Prop where
  | kept (same : last.entry? location = files.entry? location)
  | opened (absent : files.entry? location = none)
      (there : last.entry? location = some .directory)
      (led : ∃ path ∈ outputPaths config, last.locate path = .ok location)
  | written (icon : Text) (member : icon ∈ icons)
      (led : last.locate (componentFile engines config icon) = .ok location) (source : Text)
      (there : last.entry? location = some (.file (.text source)))

theorem Writes.fared (write : Writes config template icon content source files more)
    (location : Location) : Fared engines config [icon] files more location := by
  obtain ⟨between, place, opens, below, noDirectory, rfl, led⟩ := write.places
  have grows := grows_put_file below noDirectory (.text source)
  by_cases here : location = place
  · subst here
    refine .written icon (List.mem_singleton_self icon) led source ?_
    rw [entry?_put below, if_pos rfl]
  · have same : FileSystem.entry? (between.put place (.file (.text source))) location =
        between.entry? location := by
      rw [entry?_put below, if_neg here]
    rcases opens.entry location with before | ⟨absent, there, path, member, way⟩
    · exact .kept (same.trans before)
    · exact .opened absent (same.trans there) ⟨path, member, grows.locate way⟩

/-- What became of a location in one step and then in the others. -/
theorem Fared.cons (first : Fared engines config [icon] files between location)
    (others : Fared engines config icons between last location) (grows : Grows between last) :
    Fared engines config (icon :: icons) files last location := by
  cases others with
  | kept same =>
    cases first with
    | kept before => exact .kept (same.trans before)
    | opened absent there led =>
      obtain ⟨path, member, way⟩ := led
      exact .opened absent (same.trans there) ⟨path, member, grows.locate way⟩
    | written icon member led source there =>
      exact .written icon (List.mem_cons.mpr (Or.inl (List.mem_singleton.mp member)))
        (grows.locate led) source (same.trans there)
  | opened absent there led =>
    cases first with
    | kept before => exact .opened (before ▸ absent) there led
    | opened _ before _ =>
      rw [absent] at before
      cases before
    | written _ _ _ _ before =>
      rw [absent] at before
      cases before
  | written icon member led source there =>
    exact .written icon (List.mem_cons_of_mem _ member) led source there

theorem Generates.grows (run : Generates config template icons files last) : Grows files last := by
  induction run with
  | done files => exact Grows.refl files
  | next write _ ih => exact write.grows.trans ih

/-- A run keeps a tree. -/
theorem Generates.isTree (run : Generates config template icons files last)
    (tree : files.IsTree) : last.IsTree := by
  induction run with
  | done files => exact tree
  | next write _ ih => exact ih (write.isTree tree)

/-- **Nothing but components is written, and nothing but directories for them is made.** -/
theorem Generates.fared (run : Generates config template icons files last) (location : Location) :
    Fared engines config icons files last location := by
  induction run with
  | done files => exact .kept rfl
  | next write others ih => exact (write.fared location).cons ih others.grows

/-- A run over icons and others is a run over the icons and then one over the others. -/
theorem Generates.split (run : Generates config template (before ++ after) files last) :
    ∃ between, Generates config template before files between ∧
      Generates config template after between last := by
  induction before generalizing files with
  | nil => exact ⟨files, .done files, run⟩
  | cons icon before ih =>
    cases run with
    | next write others =>
      obtain ⟨between, ahead, behind⟩ := ih others
      exact ⟨between, .next write ahead, behind⟩

/-- A file that no component is written over is kept. -/
theorem Generates.kept (run : Generates config template icons files last)
    (there : files.entry? location = some (.file content))
    (elsewhere : ∀ icon ∈ icons, last.locate (componentFile engines config icon) ≠ .ok location) :
    last.entry? location = some (.file content) := by
  cases run.fared location with
  | kept same => exact same.trans there
  | opened absent =>
    rw [there] at absent
    cases absent
  | written icon member led => exact absurd led (elsewhere icon member)

/-- What is read at a path. -/
theorem read?_eq_some_iff {path : Text} :
    files.read? path = some content ↔
      ∃ location, files.locate path = .ok location ∧
        files.entry? location = some (.file content) := by
  rw [read?, find?]
  cases files.locate path with
  | error error => simp
  | ok location =>
    simp only [Except.ok.injEq, exists_eq_left']
    cases files.entry? location with
    | none => simp
    | some entry => cases entry <;> simp

/-- An icon's component is in its file. It is made of what the icon's file holds after the
components before it. -/
structure Holds (config : Config) (template : engines.Template) (before : List Text) (icon : Text)
    (files last : FileSystem) : Prop where
  made : ∃ between content source, Generates config template before files between ∧
    between.read? icon = some content ∧ IsMade config template icon content source ∧
      last.read? (componentFile engines config icon) = some (.text source)

/-- **A component is in its file unless a later one was written over it.** -/
theorem Generates.holds (run : Generates config template (before ++ icon :: after) files last)
    (last_written : ∀ later ∈ after, last.locate (componentFile engines config later) ≠
      last.locate (componentFile engines config icon)) :
    Holds config template before icon files last := by
  obtain ⟨between, ahead, behind⟩ := run.split
  cases behind with
  | next write others =>
    obtain ⟨_, location, -, below, -, rfl, led⟩ := write.places
    have found := others.grows.locate led
    refine ⟨between, _, _, ahead, write.read, write.made, read?_eq_some_iff.mpr
      ⟨location, found, others.kept ?_ ?_⟩⟩
    · rw [entry?_put below, if_pos rfl]
    · intro later member same
      exact last_written later member (same.trans found.symm)

/-! ### Plain names -/

/-- The path of a component that was written leads to a file. -/
theorem Generates.found (run : Generates config template icons files last) (member : icon ∈ icons) :
    ∃ location source, last.locate (componentFile engines config icon) = .ok location ∧
      last.entry? location = some (.file (.text source)) := by
  induction run with
  | done files => cases member
  | @next first content source icons files between last write others ih =>
    rcases List.mem_cons.mp member with rfl | member
    · obtain ⟨_, location, -, below, -, rfl, led⟩ := write.places
      have found := others.grows.locate led
      cases others.fared location with
      | kept same =>
        refine ⟨location, source, found, same.trans ?_⟩
        rw [entry?_put below, if_pos rfl]
      | opened absent =>
        rw [entry?_put below, if_pos rfl] at absent
        cases absent
      | written later _ _ source there => exact ⟨location, source, found, there⟩
    · exact ih member

/-- **Without slashes in names and extension different names have different files.** -/
theorem Generates.locate_ne (run : Generates config template icons files last)
    (tree : files.IsTree) (single : ∀ icon ∈ icons, '/' ∉ engines.componentName config icon)
    (extension : '/' ∉ config.extension) (member : icon ∈ icons) (member' : other ∈ icons)
    (differs : engines.componentName config other ≠ engines.componentName config icon) :
    last.locate (componentFile engines config other) ≠
      last.locate (componentFile engines config icon) := by
  intro same
  have free : ∀ icon ∈ icons, '/' ∉ engines.componentName config icon ++ config.extension := by
    intro icon member
    rw [List.mem_append, not_or]
    exact ⟨single icon member, extension⟩
  obtain ⟨location, source, led, there⟩ := run.found member
  have alike := (run.isTree tree).locate_join_inj (free other member') (free icon member)
    (same.trans led) led there
  exact differs (List.append_cancel_right alike)

end IconComponents.Generation
