/-
**What changes when files are written and directories are made.**

* `entry?_put` — putting an entry changes that entry and no other;
* `write?_eq_some` — a file is written where its path leads, or where nothing was;
* `Adds` — only directories come; `makeDirectories_adds` — making directories does nothing else;
* `isDirectory_makeDirectories` — a directory that was made is there;
* `makeDirectories_eq_self` — a directory that is there is not made again.
-/

import Mathlib.Data.List.TakeWhile
import IconComponents.Proofs.FileSystem.Walk

namespace IconComponents.FileSystem

variable {files more : FileSystem} {location place : Location} {path : Text} {content : Content}

/-! ### One entry -/

theorem lookup_map_entry (entries : List (Location × Entry)) (location other : Location)
    (entry : Entry) :
    (entries.map fun (place, old) => if place = location then (place, entry) else (place, old)).lookup
        other =
      if other = location then (entries.lookup other).map fun _ => entry
      else entries.lookup other := by
  induction entries with
  | nil => simp
  | cons first entries ih =>
    obtain ⟨place, old⟩ := first
    rw [List.map_cons, List.lookup_cons]
    by_cases here : place = location
    · subst here
      simp only [if_true, List.lookup_cons, ih]
      by_cases same : other = place
      · simp [same]
      · simp [beq_false_of_ne same, same]
    · simp only [if_neg here, List.lookup_cons, ih]
      by_cases same : other = place
      · simp [same, here]
      · simp [beq_false_of_ne same]

/-- **Putting an entry changes that entry and no other.** -/
theorem entry?_put (below : location ≠ []) (entry : Entry) (other : Location) :
    FileSystem.entry? (files.put location entry) other =
      if other = location then some entry else files.entry? other := by
  by_cases root : other = []
  · subst root
    rw [entry?_root, entry?_root, if_neg (Ne.symm below)]
  · rw [entry?_below root, entry?_below root, put]
    by_cases there : (files.entries.lookup location).isSome = true
    · rw [if_pos there]
      simp only
      rw [lookup_map_entry]
      by_cases same : other = location
      · subst same
        obtain ⟨old, found⟩ := Option.isSome_iff_exists.mp there
        rw [if_pos rfl, if_pos rfl, found]
        rfl
      · rw [if_neg same, if_neg same]
    · rw [if_neg there]
      simp only
      rw [List.lookup_append]
      by_cases same : other = location
      · subst same
        rw [Option.not_isSome_iff_eq_none.mp there, if_pos rfl, List.lookup_cons_self]
        rfl
      · rw [if_neg same, List.lookup_cons, beq_false_of_ne same]
        simp

theorem current_put (location : Location) (entry : Entry) :
    (files.put location entry).current = files.current := by
  unfold put
  split <;> rfl

/-! ### Writing -/

/-- **A file is written where its path leads, or where nothing was.** -/
theorem write?_eq_some (written : files.write? path content = some more) :
    ∃ location, location ≠ [] ∧ more = files.put location (.file content) ∧
      ((files.locate path = .ok location ∧ ∃ old, files.entry? location = some (.file old)) ∨
        ((∃ error, files.locate path = .error error) ∧ files.entry? location = none)) := by
  unfold write? at written
  split at written
  · next location found =>
    split at written
    · next old there =>
      cases written
      refine ⟨location, ?_, rfl, Or.inl ⟨found, old, there⟩⟩
      rintro rfl
      rw [entry?_root] at there
      cases there
    · cases written
  · next error missing =>
    split at written
    · next parent name placed =>
      split at written
      · next free =>
        cases written
        refine ⟨parent ++ [name], by simp, rfl, Or.inr ⟨⟨error, missing⟩, ?_⟩⟩
        exact Option.isNone_iff_eq_none.mp (Bool.and_eq_true_iff.mp free).2
      · cases written
    · cases written

/-- A path that leads to a file can be written. -/
theorem write?_of_file {old : Content} (found : files.locate path = .ok location)
    (there : files.entry? location = some (.file old)) (content : Content) :
    files.write? path content = some (files.put location (.file content)) := by
  rw [write?, found]
  simp only
  rw [there]

/-- Putting a file where no directory is keeps all there is. -/
theorem grows_put_file (below : location ≠ [])
    (noDirectory : files.entry? location ≠ some .directory) (content : Content) :
    Grows files (files.put location (.file content)) := by
  refine ⟨current_put _ _, fun other there => ?_, fun other there => ?_⟩
  · rw [entry?_put below]
    split
    · rfl
    · exact there
  · rw [entry?_put below, if_neg]
    · exact there
    · rintro rfl
      exact noDirectory there

/-- A file is no directory more. -/
theorem sameDirectories_put_file (below : location ≠ []) (content : Content) :
    SameDirectories files (files.put location (.file content)) := by
  intro other there
  rw [entry?_put below] at there
  split at there
  · cases there
  · exact there

/-! ### Making directories -/

/-- Only directories come, each in a directory. -/
structure Adds (files more : FileSystem) : Prop where
  current : more.current = files.current
  kept : ∀ location entry, files.entry? location = some entry → more.entry? location = some entry
  noFile : ∀ location content, more.entry? location = some (.file content) →
    files.entry? location = some (.file content)
  parent : ∀ location, (more.entry? location).isSome = true →
    (files.entry? location).isSome = true ∨ more.entry? location.dropLast = some .directory

theorem Adds.refl (files : FileSystem) : Adds files files :=
  ⟨rfl, fun _ _ there => there, fun _ _ there => there, fun _ there => Or.inl there⟩

theorem Adds.trans {most : FileSystem} (first : Adds files more) (second : Adds more most) :
    Adds files most := by
  refine ⟨second.current.trans first.current,
    fun location entry there => second.kept location entry (first.kept location entry there),
    fun location content there => first.noFile location content
      (second.noFile location content there), fun location there => ?_⟩
  rcases second.parent location there with before | above
  · exact (first.parent location before).imp_right (second.kept _ _)
  · exact Or.inr above

/-- What is added takes nothing away. -/
theorem Adds.grows (adds : Adds files more) : Grows files more := by
  refine ⟨adds.current, fun location there => ?_, fun location there => adds.kept _ _ there⟩
  obtain ⟨entry, found⟩ := Option.isSome_iff_exists.mp there
  rw [adds.kept location entry found]
  rfl

/-- A directory that is put into another one is added. -/
theorem adds_put_directory (absent : files.entry? location = none)
    (above : files.entry? location.dropLast = some .directory) :
    Adds files (files.put location .directory) := by
  have below : location ≠ [] := by
    rintro rfl
    rw [entry?_root] at absent
    cases absent
  have kept : ∀ other entry, files.entry? other = some entry →
      FileSystem.entry? (files.put location .directory) other = some entry := by
    intro other entry there
    rw [entry?_put below, if_neg]
    · exact there
    · rintro rfl
      rw [absent] at there
      cases there
  refine ⟨current_put _ _, kept, fun other content there => ?_, fun other there => ?_⟩
  · rw [entry?_put below] at there
    split at there
    · cases there
    · exact there
  · rw [entry?_put below] at there
    split at there
    · next same => exact Or.inr (kept _ _ (same ▸ above))
    · exact Or.inl there

/-- What slashes at the end of a path leave of its segments. -/
def solid (segments : List Text) : List Text :=
  (segments.reverse.dropWhile List.isEmpty).reverse

theorem segments_split (segments : List Text) :
    ∃ slashes, segments = solid segments ++ slashes ∧ ∀ segment ∈ slashes, segment = [] := by
  refine ⟨(segments.reverse.takeWhile List.isEmpty).reverse, ?_, ?_⟩
  · rw [solid, ← List.reverse_append, List.takeWhile_append_dropWhile, List.reverse_reverse]
  · intro segment member
    exact List.isEmpty_iff.mp (List.mem_takeWhile_imp (List.mem_reverse.mp member))

/-- Slashes behind a directory lead nowhere else. -/
theorem walk_slashes {slashes : List Text} (empty : ∀ segment ∈ slashes, segment = [])
    (directory : files.entry? location = some .directory) :
    files.walk location slashes = .ok location := by
  induction slashes with
  | nil => rfl
  | cons segment slashes ih =>
    obtain rfl := empty segment List.mem_cons_self
    refine walk_cons_eq_ok_iff.mpr ⟨location, step_eq_ok_iff.mpr ⟨directory, rfl, ?_⟩,
      ih fun other member => empty other (List.mem_cons_of_mem _ member)⟩
    exact fun solid => absurd solid (by decide)

/-- How a directory is made: in the directory before the last name of its path. -/
theorem makeDirectory_of_solid {segments parents : List Text} {name : Text}
    (read : segments? path = some segments) (last : solid segments = parents ++ [name]) :
    files.makeDirectory path =
      match files.walk (files.start path) parents with
      | .error .missing => .missing
      | .error _ => .blocked
      | .ok parent =>
        if files.entry? parent = some .directory then
          if isName name && (files.entry? (parent ++ [name])).isNone then
            .made (files.put (parent ++ [name]) .directory)
          else .occupied
        else .blocked := by
  rw [makeDirectory, read]
  simp only
  rw [← solid, last]
  cases ahead : parents ++ [name] with
  | nil => exact absurd ahead (by simp)
  | cons first others =>
    simp only
    rw [← ahead, place, List.dropLast_concat, List.getLast?_concat]
    cases files.walk (files.start path) parents with
    | error error => cases error <;> rfl
    | ok parent =>
      simp only
      by_cases directory : files.entry? parent = some .directory
      · rw [if_pos directory, if_pos directory]
        rfl
      · rw [if_neg directory, if_neg directory]

/-- A path of slashes only is there already. -/
theorem makeDirectory_of_slashes {segments : List Text} (read : segments? path = some segments)
    (none : solid segments = []) : files.makeDirectory path = .occupied := by
  rw [makeDirectory, read]
  simp only
  rw [← solid, none]

theorem solid_cases (segments : List Text) :
    solid segments = [] ∨ ∃ parents name, solid segments = parents ++ [name] := by
  cases shape : (solid segments).reverse with
  | nil => exact Or.inl (List.reverse_eq_nil_iff.mp shape)
  | cons name others =>
    refine Or.inr ⟨others.reverse, name, ?_⟩
    rw [← List.reverse_reverse (solid segments), shape, List.reverse_cons]

/-- The path of a new directory leads to it. -/
theorem locate_put_directory {segments parents : List Text} {parent : Location} {name : Text}
    (read : segments? path = some segments) (last : solid segments = parents ++ [name])
    (way : files.walk (files.start path) parents = .ok parent)
    (directory : files.entry? parent = some .directory) (named : isName name = true)
    (adds : Adds files (files.put (parent ++ [name]) .directory)) :
    (files.put (parent ++ [name]) .directory).locate path = .ok (parent ++ [name]) := by
  obtain ⟨slashes, shape, empty⟩ := segments_split segments
  have here : FileSystem.entry? (files.put (parent ++ [name]) .directory) (parent ++ [name]) =
      some .directory := by
    rw [entry?_put (by simp), if_pos rfl]
  refine locate_eq_ok_iff.mpr ⟨segments, read, ?_⟩
  rw [shape, last, List.append_assoc, adds.grows.start]
  refine walk_append_eq_ok_iff.mpr ⟨parent, adds.grows.walk way, ?_⟩
  refine walk_cons_eq_ok_iff.mpr ⟨parent ++ [name], step_eq_ok_iff.mpr ⟨?_, ?_, ?_⟩,
    walk_slashes empty here⟩
  · exact adds.grows.directory parent directory
  · exact (target_of_isName named).symm
  · rw [here]
    exact fun _ _ => ⟨named, rfl⟩

/-- **A directory that is made is one entry where nothing was**, and its path leads there. -/
theorem makeDirectory_eq_made (made : files.makeDirectory path = .made more) :
    ∃ location, location ≠ [] ∧ files.entry? location = none ∧
      files.entry? location.dropLast = some .directory ∧
      more = files.put location .directory ∧ more.locate path = .ok location := by
  cases read : segments? path with
  | none =>
    rw [makeDirectory, read] at made
    cases made
  | some segments =>
    rcases solid_cases segments with none | ⟨parents, name, last⟩
    · rw [makeDirectory_of_slashes read none] at made
      cases made
    · rw [makeDirectory_of_solid read last] at made
      split at made
      · cases made
      · cases made
      · next parent way =>
        split at made
        · next directory =>
          split at made
          · next free =>
            obtain ⟨named, nothing⟩ := Bool.and_eq_true_iff.mp free
            have absent := Option.isNone_iff_eq_none.mp nothing
            have above : files.entry? (parent ++ [name]).dropLast = some .directory := by
              rw [List.dropLast_concat]
              exact directory
            cases made
            exact ⟨parent ++ [name], by simp, absent, above, rfl,
              locate_put_directory read last way directory named
                (adds_put_directory absent above)⟩
          · cases made
        · cases made

/-- A directory that is there is not made again. -/
theorem makeDirectory_of_isDirectory (directory : files.isDirectory path = true) :
    files.makeDirectory path = .occupied := by
  obtain ⟨place, found, there⟩ := isDirectory_iff.mp directory
  obtain ⟨segments, read, way⟩ := locate_eq_ok_iff.mp found
  rcases solid_cases segments with none | ⟨parents, name, last⟩
  · exact makeDirectory_of_slashes read none
  · obtain ⟨slashes, shape, empty⟩ := segments_split segments
    rw [shape, last, List.append_assoc, walk_append_eq_ok_iff] at way
    obtain ⟨parent, ahead, rest⟩ := way
    obtain ⟨next, step, rest⟩ := walk_cons_eq_ok_iff.mp rest
    obtain ⟨above, rfl, named⟩ := step_eq_ok_iff.mp step
    rw [makeDirectory_of_solid read last, ahead]
    simp only
    rw [if_pos above, if_neg]
    rintro free
    obtain ⟨fit, nothing⟩ := Bool.and_eq_true_iff.mp free
    have present := (named (isVacuous_of_isName fit) (ne_up_of_isName fit)).2
    rw [target_of_isName fit, Option.isNone_iff_eq_none.mp nothing] at present
    cases present

/-- A directory that is made is added, and there. -/
theorem makeDirectory_made (made : files.makeDirectory path = .made more) :
    Adds files more ∧ more.isDirectory path = true := by
  obtain ⟨location, below, absent, above, rfl, found⟩ := makeDirectory_eq_made made
  refine ⟨adds_put_directory absent above, isDirectory_iff.mpr ⟨location, found, ?_⟩⟩
  rw [entry?_put below, if_pos rfl]

/-- Ensuring a directory adds it at most. -/
theorem ensure_adds (files : FileSystem) (path : Text) : Adds files (files.ensure path).2 := by
  unfold ensure
  split
  · next more made => exact (makeDirectory_made made).1
  · exact Adds.refl files

/-- A directory that is ensured is there. -/
theorem isDirectory_ensure (made : files.ensure path = (true, more)) :
    more.isDirectory path = true := by
  unfold ensure at made
  split at made
  · next there =>
    cases made
    exact (makeDirectory_made there).2
  · obtain ⟨there, rfl⟩ := Prod.mk.inj made
    exact there

/-- Ensuring a directory that is there changes nothing. -/
theorem ensure_of_isDirectory (directory : files.isDirectory path = true) :
    files.ensure path = (true, files) := by
  rw [ensure, makeDirectory_of_isDirectory directory]
  simp only
  rw [directory]

/-- **Making a directory and those above it makes one after the other**: what holds of each of these
steps, and of several steps if it holds of each, holds of them together. -/
theorem makeBelow_induction {related : FileSystem → FileSystem → Prop}
    (refl : ∀ files, related files files)
    (trans : ∀ {files between more}, related files between → related between more →
      related files more) {path : Text} {parents : List Text}
    (step : ∀ files, ∀ above ∈ path :: parents, related files (files.ensure above).2)
    (files : FileSystem) : related files (files.makeBelow path parents).2 := by
  have last := fun files => step files path List.mem_cons_self
  induction parents generalizing path with
  | nil =>
    unfold makeBelow
    split
    · exact refl files
    · exact last files
  | cons parent others ih =>
    have others := fun files above member => step files above (List.mem_cons_of_mem path member)
    unfold makeBelow
    split
    · exact refl files
    · split
      · have above := ih others fun files => others files parent List.mem_cons_self
        split
        · next between made =>
          rw [made] at above
          exact trans above (last between)
        · next between made =>
          rw [made] at above
          exact above
      · exact last files

/-- Making a directory below others adds directories at most. -/
theorem makeBelow_adds (files : FileSystem) (path : Text) (parents : List Text) :
    Adds files (files.makeBelow path parents).2 :=
  makeBelow_induction Adds.refl Adds.trans (fun files above _ => ensure_adds files above) files

/-- A directory that is made below others is there. -/
theorem isDirectory_makeBelow {parents : List Text} (some : path ≠ [])
    (made : files.makeBelow path parents = (true, more)) : more.isDirectory path = true := by
  have solid : ¬ path.isEmpty = true := fun empty => some (List.isEmpty_iff.mp empty)
  cases parents with
  | nil =>
    rw [makeBelow, if_neg solid] at made
    exact isDirectory_ensure made
  | cons parent others =>
    rw [makeBelow, if_neg solid] at made
    split at made
    · split at made
      · exact isDirectory_ensure made
      · cases made
    · exact isDirectory_ensure made

/-- **Making directories does nothing else.** -/
theorem makeDirectories_adds (files : FileSystem) (path : Text) :
    Adds files (files.makeDirectories path).2 :=
  makeBelow_adds files path (Path.parents path)

/-- **A directory that was made is there.** -/
theorem isDirectory_makeDirectories (some : path ≠ [])
    (made : files.makeDirectories path = (true, more)) : more.isDirectory path = true :=
  isDirectory_makeBelow some made

/-- **A directory that is there is not made again.** -/
theorem makeDirectories_eq_self (directory : path = [] ∨ files.isDirectory path = true) :
    files.makeDirectories path = (true, files) := by
  unfold makeDirectories
  rcases directory with rfl | directory
  · cases Path.parents [] <;> rfl
  · have ensured := ensure_of_isDirectory directory
    cases Path.parents path with
    | nil =>
      rw [makeBelow, ensured]
      split <;> rfl
    | cons parent others =>
      rw [makeBelow, makeDirectory_of_isDirectory directory]
      simp only
      rw [ensured]
      split <;> rfl

end IconComponents.FileSystem
