/-
**File systems without contents.**

Where paths lead, what patterns stand for and where files are written depends on which files and
directories there are, and not on what the files hold:

* `skeleton` — a file system with empty files;
* `locate_skeleton`, `expand_skeleton` — looking up paths and expanding patterns;
* `write?_skeleton`, `makeDirectories_skeleton` — writing files and making directories.
-/

import Mathlib.Data.List.Basic
import IconComponents.Glob.Expand
import IconComponents.Proofs.FileSystem.Walk

namespace IconComponents

/-- An entry without its content. -/
def Entry.blank : Entry → Entry
  | .directory => .directory
  | .file _ => .file (.text [])

theorem Entry.blank_eq_directory {entry : Entry} : entry.blank = .directory ↔ entry = .directory := by
  cases entry <;> simp [blank]

namespace FileSystem

variable {files : FileSystem} {location : Location} {path : Text} {content : Content}

/-- A file system with empty files. -/
def skeleton (files : FileSystem) : FileSystem :=
  { files with entries := files.entries.map (Prod.map id Entry.blank) }

/-! ### Looking up -/

theorem lookup_map_blank (entries : List (Location × Entry)) (location : Location) :
    (entries.map (Prod.map id Entry.blank)).lookup location =
      (entries.lookup location).map Entry.blank := by
  induction entries with
  | nil => rfl
  | cons first entries ih =>
    rw [List.map_cons, List.lookup_cons, List.lookup_cons, ih, Prod.map_fst, id]
    cases location == first.1 <;> rfl

theorem entry?_skeleton (files : FileSystem) (location : Location) :
    files.skeleton.entry? location = (files.entry? location).map Entry.blank := by
  by_cases root : location = []
  · rw [root, entry?_root, entry?_root]
    rfl
  · rw [entry?_below root, entry?_below root]
    exact lookup_map_blank files.entries location

theorem entry?_skeleton_directory :
    files.skeleton.entry? location = some .directory ↔ files.entry? location = some .directory := by
  rw [entry?_skeleton, Option.map_eq_some_iff]
  simp only [Entry.blank_eq_directory, exists_eq_right]

theorem isSome_entry?_skeleton :
    (files.skeleton.entry? location).isSome = (files.entry? location).isSome := by
  rw [entry?_skeleton, Option.isSome_map]

/-- A step does not ask for the contents of files. -/
theorem step_skeleton (files : FileSystem) (location : Location) (segment : Text) :
    files.skeleton.step location segment = files.step location segment := by
  unfold step
  simp only [ne_eq, entry?_skeleton_directory, isSome_entry?_skeleton]

/-- A walk does not ask for the contents of files. -/
theorem walk_skeleton (files : FileSystem) (location : Location) (segments : List Text) :
    files.skeleton.walk location segments = files.walk location segments := by
  induction segments generalizing location with
  | nil => rfl
  | cons segment segments ih =>
    rw [walk, walk, step_skeleton]
    cases files.step location segment with
    | error error => rfl
    | ok next => exact ih next

theorem start_skeleton (files : FileSystem) (path : Text) :
    files.skeleton.start path = files.start path := rfl

/-- **Where a path leads** does not depend on contents. -/
theorem locate_skeleton (files : FileSystem) (path : Text) :
    files.skeleton.locate path = files.locate path := by
  rw [locate, locate]
  cases segments? path with
  | none => rfl
  | some segments => exact walk_skeleton files (files.start path) segments

theorem find?_skeleton (files : FileSystem) (path : Text) :
    files.skeleton.find? path = (files.find? path).map Entry.blank := by
  rw [find?, find?, locate_skeleton]
  cases files.locate path with
  | error error => rfl
  | ok location => exact entry?_skeleton files location

theorem pathExists_skeleton (files : FileSystem) (path : Text) :
    files.skeleton.pathExists path = files.pathExists path := by
  rw [pathExists, find?_skeleton, Option.isSome_map, pathExists]

theorem isDirectory_skeleton (files : FileSystem) (path : Text) :
    files.skeleton.isDirectory path = files.isDirectory path := by
  rw [isDirectory, isDirectory, find?_skeleton]
  rcases files.find? path with _ | _ | _ <;> rfl

theorem isFile_skeleton (files : FileSystem) (path : Text) :
    files.skeleton.isFile path = files.isFile path := by
  rw [isFile, isFile, read?, read?, find?_skeleton]
  rcases files.find? path with _ | _ | _ <;> rfl

/-! ### Files of the same shape -/

section Shape

variable {other : FileSystem}

/-- Paths lead to the same places in file systems of one shape. -/
theorem locate_of_shape (shape : other.skeleton = files.skeleton) (path : Text) :
    other.locate path = files.locate path := by
  rw [← locate_skeleton, shape, locate_skeleton]

end Shape

/-! ### Patterns -/

/-- Directories have the same names in a skeleton. -/
theorem names_skeleton (files : FileSystem) (directory : Location) :
    files.skeleton.names directory = files.names directory := by
  rw [names, names, skeleton, List.filterMap_map]
  rfl

/-- Sorting does not ask for contents. -/
theorem map_insertSorted (entry : Location × Entry) (sorted : List (Location × Entry)) :
    (insertSorted entry sorted).map (Prod.map id Entry.blank) =
      insertSorted (Prod.map id Entry.blank entry) (sorted.map (Prod.map id Entry.blank)) := by
  induction sorted with
  | nil => rfl
  | cons other sorted ih =>
    rw [insertSorted, List.map_cons, insertSorted]
    simp only [Prod.map_fst, id_eq]
    split
    · rw [List.map_cons, ih]
    · rfl

theorem map_sorted (entries : List (Location × Entry)) :
    (entries.foldr insertSorted []).map (Prod.map id Entry.blank) =
      (entries.map (Prod.map id Entry.blank)).foldr insertSorted [] := by
  induction entries with
  | nil => rfl
  | cons entry entries ih =>
    rw [List.foldr_cons, map_insertSorted, ih]
    rfl

theorem below_skeleton (files : FileSystem) (location : Location) :
    files.skeleton.below location =
      (files.below location).map (Prod.map id Entry.blank) := by
  rw [below, below, map_sorted, List.map_filterMap, skeleton, List.filterMap_map]
  congr 1
  refine List.filterMap_congr fun (other, entry) _ => ?_
  simp only [Function.comp_apply, Prod.map_fst, id_eq]
  split <;> rfl

theorem descendants_skeleton (files : FileSystem) (path : Text) :
    files.skeleton.descendants path = files.descendants path := by
  rw [descendants, descendants, locate_skeleton]
  cases files.locate path with
  | error error => rfl
  | ok location =>
    simp only
    rw [below_skeleton, List.filterMap_map]
    rfl

/-- The same children are in a directory of a skeleton. -/
theorem children_skeleton (files : FileSystem) (path : Text) :
    files.skeleton.children path = files.children path := by
  rw [children, children, locate_skeleton]
  simp only [names_skeleton]

/-- A pattern finds the same in the skeleton. A component `**` looks at the one behind it as well, so
the induction goes back to any shorter list. -/
theorem expandBelow_skeleton (files : FileSystem) (directory : Bool) (components : List Pattern)
    (path : Text) :
    files.skeleton.expandBelow directory components path =
      files.expandBelow directory components path := by
  induction length : components.length using Nat.strongRecOn generalizing components path with
  | ind length ih =>
    subst length
    cases components with
    | nil => rw [expandBelow, expandBelow, isDirectory_skeleton]
    | cons component components =>
      have behind : ∀ path, files.skeleton.expandBelow directory components path =
          files.expandBelow directory components path :=
        fun path => ih _ (Nat.lt_succ_self _) components path rfl
      rw [expandBelow.eq_def, expandBelow.eq_def files]
      simp only [isDirectory_skeleton, pathExists_skeleton, descendants_skeleton,
        children_skeleton, behind]
      cases components with
      | nil => simp only [funext (isDirectory_skeleton files)]
      | cons next rest =>
        have after : ∀ path, files.skeleton.expandBelow directory rest path =
            files.expandBelow directory rest path :=
          fun path => ih _ (by simp only [List.length_cons]; omega) rest path rfl
        simp only [after]

/-- **What a pattern stands for** does not depend on contents. -/
theorem expand_skeleton (files : FileSystem) (pattern : PathPattern) :
    files.skeleton.expand pattern = files.expand pattern := by
  rw [expand, expand]
  simp only [expandBelow_skeleton]

/-! ### Changes -/

/-- The skeleton after an entry is put. -/
theorem put_skeleton (files : FileSystem) (location : Location) (entry : Entry) :
    (files.put location entry).skeleton = files.skeleton.put location entry.blank := by
  unfold put
  rw [skeleton, skeleton]
  simp only [lookup_map_blank, Option.isSome_map]
  split
  · simp only [List.map_map, FileSystem.mk.injEq, and_true]
    refine List.map_congr_left fun (other, old) _ => ?_
    simp only [Function.comp_apply, Prod.map_fst, id_eq]
    split <;> rfl
  · simp

theorem place_skeleton (files : FileSystem) (location : Location) (segments : List Text) :
    files.skeleton.place location segments = files.place location segments := by
  unfold place
  rw [walk_skeleton]
  simp only [entry?_skeleton_directory]

/-- **Where a file is written** does not depend on contents. -/
theorem write?_skeleton (files : FileSystem) (path : Text) (content : Content) :
    files.skeleton.write? path (.text []) = (files.write? path content).map skeleton := by
  unfold write?
  rw [locate_skeleton]
  cases files.locate path with
  | ok location =>
    simp only [entry?_skeleton]
    rcases files.entry? location with _ | _ | _
    · rfl
    · rfl
    · exact congrArg some (put_skeleton files location (.file content)).symm
  | error error =>
    cases segments? path with
    | none => rfl
    | some segments =>
      rw [Option.map_some, Option.map_some, start_skeleton, place_skeleton]
      cases files.place (files.start path) segments with
      | error error => rfl
      | ok placed =>
        simp only [entry?_skeleton, Option.isNone_map]
        split
        · exact congrArg some (put_skeleton files _ (.file content)).symm
        · rfl

/-- Directories are made alike in a skeleton. -/
theorem makeDirectory_skeleton (files : FileSystem) (path : Text) :
    files.skeleton.makeDirectory path =
      match files.makeDirectory path with
      | .made files => .made files.skeleton
      | other => other := by
  unfold makeDirectory
  cases segments? path with
  | none => rfl
  | some segments =>
    simp only [start_skeleton, place_skeleton]
    cases (segments.reverse.dropWhile List.isEmpty).reverse with
    | nil => rfl
    | cons first others =>
      simp only
      cases files.place (files.start path) (first :: others) with
      | error error => cases error <;> rfl
      | ok placed =>
        simp only [entry?_skeleton, Option.isNone_map]
        split
        · exact congrArg Making.made (put_skeleton files _ .directory).symm
        · rfl

theorem ensure_skeleton (files : FileSystem) (path : Text) :
    files.skeleton.ensure path = ((files.ensure path).1, (files.ensure path).2.skeleton) := by
  rw [ensure, ensure, makeDirectory_skeleton, isDirectory_skeleton]
  cases files.makeDirectory path <;> rfl

/-- The same directories are made on the way in a skeleton. -/
theorem makeBelow_skeleton (files : FileSystem) (path : Text) (parents : List Text) :
    files.skeleton.makeBelow path parents =
      ((files.makeBelow path parents).1, (files.makeBelow path parents).2.skeleton) := by
  induction parents generalizing path with
  | nil =>
    unfold makeBelow
    split
    · rfl
    · exact ensure_skeleton files path
  | cons parent others ih =>
    unfold makeBelow
    split
    · rfl
    · rw [makeDirectory_skeleton]
      cases files.makeDirectory path with
      | missing =>
        simp only [ih]
        cases files.makeBelow parent others with
        | mk made between =>
          cases made with
          | false => rfl
          | true => exact ensure_skeleton between path
      | made more => exact ensure_skeleton files path
      | occupied => exact ensure_skeleton files path
      | blocked => exact ensure_skeleton files path

/-- **Which directories are made** does not depend on contents. -/
theorem makeDirectories_skeleton (files : FileSystem) (path : Text) :
    files.skeleton.makeDirectories path =
      ((files.makeDirectories path).1, (files.makeDirectories path).2.skeleton) :=
  makeBelow_skeleton files path (Path.parents path)

end FileSystem

end IconComponents
