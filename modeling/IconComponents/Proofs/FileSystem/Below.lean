/-
**Paths below a path.**

A path below another one is written name by name, and it leads where a walk along the names leads
from the other one. So what has something below it is a directory, and a path that ends in a slash
leads to no file.

* `locate_foldl_join` — the way to a path below another one;
* `not_isFile_join_nil`, `foldl_join_nil` — a slash at the end, and names behind it;
* `foldl_join_path` — names below the path of a location;
* `mem_names_iff`, `mem_descendants_iff` — the entries that a search of a directory meets.
-/

import IconComponents.Glob.Expand
import IconComponents.Proofs.FileSystem.Arrival

namespace IconComponents

namespace Path

variable {path name : Text} {names : List Text}

/-- A text between the slashes of a path. -/
def IsSegment (name : Text) : Prop := name ≠ [] ∧ '/' ∉ name

/-- A name of a directory in itself, or of the one above it. -/
def IsDots (name : Text) : Prop := name = ['.'] ∨ name = ['.', '.']

instance (name : Text) : Decidable (IsSegment name) :=
  inferInstanceAs (Decidable (name ≠ [] ∧ '/' ∉ name))

instance (name : Text) : Decidable (IsDots name) :=
  inferInstanceAs (Decidable (name = ['.'] ∨ name = ['.', '.']))

/-- A name that an entry of a directory can have. -/
def IsEntryName (name : Text) : Prop := IsSegment name ∧ ¬ IsDots name

instance (name : Text) : Decidable (IsEntryName name) :=
  inferInstanceAs (Decidable (IsSegment name ∧ ¬ IsDots name))

theorem isSegment_of_isDots (dots : IsDots name) : IsSegment name := by
  rcases dots with rfl | rfl <;> decide

theorem ne_nil_of_isAbsolute (absolute : isAbsolute path = true) : path ≠ [] := by
  rintro rfl
  cases absolute

theorem join_of_isAbsolute (absolute : isAbsolute name = true) (path : Text) :
    join path name = name := by
  rw [join, absolute, Bool.true_or, Bool.true_or, if_pos rfl, if_pos rfl]

theorem isAbsolute_join (absolute : isAbsolute path = true) (name : Text) :
    isAbsolute (join path name) = true := by
  unfold join
  split
  · split
    · assumption
    · rw [FileSystem.isAbsolute_append (ne_nil_of_isAbsolute absolute), absolute]
  · rw [FileSystem.isAbsolute_append (ne_nil_of_isAbsolute absolute), absolute]

theorem join_of_slash (front : Text) (free : isAbsolute name = false) :
    join (front ++ ['/']) name = front ++ '/' :: name := by
  simp [join, free]

theorem join_of_no_slash (nonempty : path ≠ []) (noSlash : path.getLast? ≠ some '/')
    (free : isAbsolute name = false) : join path name = path ++ '/' :: name := by
  simp [join, free, nonempty, noSlash]

/-- An empty name behind a path changes nothing for the names behind it. -/
theorem join_join_nil (absolute : isAbsolute path = true) (free : '/' ∉ name) :
    join (join path []) name = join path name := by
  have relative := FileSystem.isAbsolute_of_free free
  by_cases slash : path.getLast? = some '/'
  · obtain ⟨front, rfl⟩ := List.getLast?_eq_some_iff.mp slash
    rw [join_of_slash front rfl]
  · rw [join_of_no_slash (ne_nil_of_isAbsolute absolute) slash rfl, join_of_slash path relative,
      join_of_no_slash (ne_nil_of_isAbsolute absolute) slash relative]

theorem foldl_join_nil (absolute : isAbsolute path = true) (nonempty : names ≠ [])
    (free : ∀ name ∈ names, '/' ∉ name) :
    names.foldl join (join path []) = names.foldl join path := by
  obtain ⟨name, names, rfl⟩ := List.exists_cons_of_ne_nil nonempty
  rw [List.foldl_cons, List.foldl_cons, join_join_nil absolute (free name List.mem_cons_self)]

theorem isAbsolute_foldl_join (absolute : isAbsolute path = true) (names : List Text) :
    isAbsolute (names.foldl join path) = true := by
  induction names generalizing path with
  | nil => exact absolute
  | cons name names ih => exact ih (isAbsolute_join absolute name)

end Path

namespace Location

variable {location : Location} {names : List Text}

theorem isAbsolute_path (location : Location) : Path.isAbsolute location.path = true := by
  unfold Location.path
  split
  · rfl
  · next below =>
    cases location with
    | nil => exact absurd rfl below
    | cons name location => rfl

theorem path_append_singleton (location : Location) (name : Text) :
    Location.path (location ++ [name]) = location.flatMap ('/' :: ·) ++ '/' :: name := by
  rw [Location.path, if_neg (by simp), List.flatMap_append]
  simp

/-- A relative path below a location. -/
theorem join_path_of_relative (segments : ∀ segment ∈ location, Path.IsSegment segment)
    {path : Text} (relative : Path.isAbsolute path = false) :
    Path.join location.path path = location.flatMap ('/' :: ·) ++ '/' :: path := by
  induction location using List.reverseRecOn with
  | nil => exact Path.join_of_slash [] relative
  | append_singleton location last =>
    obtain ⟨nonempty, noSlash⟩ := segments last (by simp)
    obtain ⟨front, c, rfl⟩ := (List.eq_nil_or_concat' last).resolve_left nonempty
    rw [path_append_singleton, Path.join_of_no_slash (by simp) _ relative, List.flatMap_append]
    · simp
    · intro slash
      rw [List.getLast?_append_cons, ← List.cons_append, List.getLast?_concat] at slash
      exact noSlash (by simp [Option.some.inj slash])

/-- A name below a location. -/
theorem join_path (segments : ∀ segment ∈ location, Path.IsSegment segment) {name : Text}
    (free : '/' ∉ name) : Path.join location.path name = Location.path (location ++ [name]) := by
  rw [join_path_of_relative segments (FileSystem.isAbsolute_of_free free), path_append_singleton]

/-- Several names below a location, one after the other. -/
theorem foldl_join_path (segments : ∀ segment ∈ location, Path.IsSegment segment)
    (below : ∀ name ∈ names, Path.IsSegment name) :
    names.foldl Path.join location.path = Location.path (location ++ names) := by
  induction names generalizing location with
  | nil => rw [List.append_nil]; rfl
  | cons name names ih =>
    obtain ⟨first, others⟩ := List.forall_mem_cons.mp below
    rw [List.foldl_cons, join_path segments first.2, ih _ others, List.append_assoc,
      List.singleton_append]
    intro segment member
    rcases List.mem_append.mp member with member | member
    · exact segments segment member
    · exact List.mem_singleton.mp member ▸ first

end Location

namespace FileSystem

variable {files : FileSystem} {location place : Location} {path name : Text} {names : List Text}
  {entry : Entry}

/-! ### The way to a path below another one -/

/-- **The way to a path below another one** is the way to that one and a walk along the names. -/
theorem locate_foldl_join (absolute : Path.isAbsolute path = true)
    (free : ∀ name ∈ names, '/' ∉ name)
    (found : files.locate (names.foldl Path.join path) = .ok place) :
    ∃ location, files.locate path = .ok location ∧ files.walk location names = .ok place := by
  induction names generalizing path with
  | nil => exact ⟨place, found, rfl⟩
  | cons name names ih =>
    obtain ⟨first, others⟩ := List.forall_mem_cons.mp free
    obtain ⟨next, there, way⟩ := ih (Path.isAbsolute_join absolute name) others found
    obtain ⟨location, here, step⟩ :=
      locate_join (Path.ne_nil_of_isAbsolute absolute) first there
    exact ⟨location, here, walk_cons_eq_ok_iff.mpr ⟨next, step, way⟩⟩

theorem isFile_iff :
    files.isFile path = true ↔
      ∃ place content, files.locate path = .ok place ∧
        files.entry? place = some (.file content) := by
  rw [isFile, read?, find?]
  cases files.locate path with
  | error error => simp
  | ok place =>
    rcases there : files.entry? place with _ | _ | content <;> simp [there]

theorem pathExists_iff :
    files.pathExists path = true ↔
      ∃ place, files.locate path = .ok place ∧ (files.entry? place).isSome = true := by
  rw [pathExists, find?]
  cases files.locate path with
  | error error => simp
  | ok place => simp

/-- No directory is a file. -/
theorem not_isFile_of_isDirectory (directory : files.isDirectory path = true) :
    ¬ files.isFile path = true := by
  intro file
  obtain ⟨place, here, isDirectory⟩ := isDirectory_iff.mp directory
  obtain ⟨other, content, there, isFile⟩ := isFile_iff.mp file
  rw [here] at there
  cases there
  rw [isDirectory] at isFile
  cases isFile

/-- What has something below it is a directory. -/
theorem isDirectory_of_foldl_join (absolute : Path.isAbsolute path = true) (some : names ≠ [])
    (free : ∀ name ∈ names, '/' ∉ name)
    (found : files.locate (names.foldl Path.join path) = .ok place) :
    files.isDirectory path = true := by
  obtain ⟨location, here, way⟩ := locate_foldl_join absolute free found
  obtain ⟨name, names, rfl⟩ := List.exists_cons_of_ne_nil some
  obtain ⟨next, step, -⟩ := walk_cons_eq_ok_iff.mp way
  exact isDirectory_iff.mpr ⟨location, here, (step_eq_ok_iff.mp step).1⟩

/-- A path that ends in a slash leads to no file. -/
theorem not_isFile_join_nil (absolute : Path.isAbsolute path = true) :
    ¬ files.isFile (Path.join path []) = true := by
  intro file
  obtain ⟨place, content, found, isFile⟩ := isFile_iff.mp file
  obtain ⟨location, -, step⟩ :=
    locate_join (Path.ne_nil_of_isAbsolute absolute) List.not_mem_nil found
  obtain ⟨directory, rfl, -⟩ := step_eq_ok_iff.mp step
  rw [directory] at isFile
  cases isFile

/-- Names that entries can have lead to the entry of these names. -/
theorem walk_of_entryNames (named : ∀ name ∈ names, Path.IsEntryName name)
    (found : files.walk location names = .ok place) :
    place = location ++ names ∧ (names ≠ [] → (files.entry? place).isSome = true) := by
  induction names generalizing location with
  | nil =>
    cases found
    exact ⟨(List.append_nil _).symm, fun some => absurd rfl some⟩
  | cons name names ih =>
    obtain ⟨first, others⟩ := List.forall_mem_cons.mp named
    obtain ⟨next, step, way⟩ := walk_cons_eq_ok_iff.mp found
    obtain ⟨one, two⟩ := not_or.mp first.2
    obtain ⟨-, rfl, there⟩ := step_eq_ok_iff.mp step
    obtain ⟨isName, present⟩ := there (by simp [Path.isVacuous, first.1.1, one]) two
    rw [target_of_isName isName] at way present
    obtain ⟨rfl, inside⟩ := ih others way
    refine ⟨by rw [List.append_assoc, List.singleton_append], fun _ => ?_⟩
    cases names with
    | nil => rwa [List.append_nil]
    | cons name names => exact inside (List.cons_ne_nil name names)

/-! ### The entries of a directory -/

/-- Entries have names that paths can lead to. -/
def IsNamed (files : FileSystem) : Prop :=
  ∀ entry ∈ files.entries, ∀ name ∈ entry.1, Path.IsEntryName name

instance (files : FileSystem) : Decidable files.IsNamed :=
  inferInstanceAs (Decidable (∀ entry ∈ files.entries, ∀ name ∈ entry.1, Path.IsEntryName name))

theorem mem_entries_of_entry? (below : location ≠ []) (there : files.entry? location = some entry) :
    (location, entry) ∈ files.entries := by
  rw [entry?_below below, List.lookup_eq_some_iff] at there
  obtain ⟨ahead, behind, entries, -⟩ := there
  rw [entries]
  simp

/-- What lies below a path by names of entries is stored below its location. -/
theorem stored_of_foldl_join {passed : List Text} (absolute : Path.isAbsolute path = true)
    (some : passed ≠ []) (named : ∀ name ∈ passed, Path.IsEntryName name)
    (free : ∀ name ∈ names, '/' ∉ name)
    (found : files.locate (names.foldl Path.join (passed.foldl Path.join path)) = .ok place) :
    ∃ location entry, files.locate path = .ok location ∧
      (location ++ passed, entry) ∈ files.entries := by
  obtain ⟨there, leads, -⟩ :=
    locate_foldl_join (Path.isAbsolute_foldl_join absolute passed) free found
  obtain ⟨location, here, way⟩ :=
    locate_foldl_join absolute (fun name member => (named name member).1.2) leads
  obtain ⟨rfl, present⟩ := walk_of_entryNames named way
  obtain ⟨entry, stored⟩ := Option.isSome_iff_exists.mp (present some)
  exact ⟨location, entry, here, mem_entries_of_entry? (by simp [some]) stored⟩

/-- The names in a directory are those of its entries. -/
theorem mem_names_iff :
    name ∈ files.names location ↔ ∃ entry, (location ++ [name], entry) ∈ files.entries := by
  rw [names, List.mem_filterMap]
  constructor
  · rintro ⟨⟨other, entry⟩, member, found⟩
    dsimp only at found
    split at found
    · next parent =>
      subst parent
      obtain ⟨front, rfl⟩ := List.getLast?_eq_some_iff.mp found
      rw [List.dropLast_concat]
      exact ⟨entry, member⟩
    · cases found
  · rintro ⟨entry, member⟩
    exact ⟨_, member, by simp⟩

theorem mem_insertSorted {new other : Location × Entry} {sorted : List (Location × Entry)} :
    other ∈ insertSorted new sorted ↔ other = new ∨ other ∈ sorted := by
  induction sorted with
  | nil => rw [insertSorted, List.mem_singleton]; simp
  | cons first sorted ih =>
    rw [insertSorted]
    split
    · rw [List.mem_cons, ih, List.mem_cons]
      exact or_left_comm
    · rw [List.mem_cons]

/-- What is below a location. -/
theorem mem_below_iff :
    (names, entry) ∈ files.below location ↔
      names ≠ [] ∧ (location ++ names, entry) ∈ files.entries := by
  have sorted : ∀ entries : List (Location × Entry),
      (names, entry) ∈ entries.foldr insertSorted [] ↔ (names, entry) ∈ entries := by
    intro entries
    induction entries with
    | nil => rfl
    | cons first entries ih => rw [List.foldr_cons, mem_insertSorted, ih, List.mem_cons]
  rw [below, sorted, List.mem_filterMap]
  constructor
  · rintro ⟨⟨other, entry⟩, member, found⟩
    dsimp only at found
    split at found
    · next inside =>
      cases found
      rw [Bool.and_eq_true, decide_eq_true_eq, decide_eq_true_eq] at inside
      obtain ⟨different, start⟩ := inside
      have parts := List.take_append_drop location.length other
      rw [start] at parts
      refine ⟨fun empty => different ?_, by rwa [parts]⟩
      rw [← parts, empty, List.append_nil]
    · cases found
  · rintro ⟨nonempty, member⟩
    exact ⟨_, member, by simp [nonempty]⟩

theorem child_of_isAbsolute (absolute : Path.isAbsolute path = true) (name : Text) :
    child path name = Path.join path name := by
  obtain ⟨rest, rfl⟩ := isAbsolute_eq_true_iff.mp absolute
  simp [child, Path.components, Path.shape]

theorem foldl_child (absolute : Path.isAbsolute path = true) (names : List Text) :
    names.foldl child path = names.foldl Path.join path := by
  induction names generalizing path with
  | nil => rfl
  | cons name names ih =>
    rw [List.foldl_cons, List.foldl_cons, child_of_isAbsolute absolute,
      ih (Path.isAbsolute_join absolute name)]

/-- The children at an absolute path. -/
theorem mem_children_iff {file : Text} (absolute : Path.isAbsolute path = true) :
    (file, name) ∈ files.children path ↔
      ∃ location, files.locate path = .ok location ∧ name ∈ files.names location ∧
        file = Path.join path name := by
  rw [children]
  cases files.locate path with
  | error error => simp
  | ok location =>
    simp only [List.mem_map, Prod.mk.injEq, child_of_isAbsolute absolute, Except.ok.injEq]
    constructor
    · rintro ⟨_, member, rfl, rfl⟩
      exact ⟨location, rfl, member, rfl⟩
    · rintro ⟨_, rfl, member, rfl⟩
      exact ⟨name, member, rfl, rfl⟩

/-- **What a search below a directory meets** are the entries there, at any depth. -/
theorem mem_descendants_iff {file : Text} (absolute : Path.isAbsolute path = true) :
    (file, name) ∈ files.descendants path ↔
      ∃ location passed entry, files.locate path = .ok location ∧
        (location ++ (passed ++ [name]), entry) ∈ files.entries ∧
        file = (passed ++ [name]).foldl Path.join path := by
  rw [descendants]
  cases files.locate path with
  | error error => simp
  | ok location =>
    simp only [List.mem_filterMap, Prod.exists, mem_below_iff, foldl_child absolute,
      Option.map_eq_some_iff, Prod.mk.injEq, Except.ok.injEq]
    constructor
    · rintro ⟨_, entry, ⟨-, member⟩, _, last, rfl, rfl⟩
      obtain ⟨passed, rfl⟩ := List.getLast?_eq_some_iff.mp last
      exact ⟨location, passed, entry, rfl, member, rfl⟩
    · rintro ⟨_, passed, entry, rfl, member, rfl⟩
      exact ⟨_, entry, ⟨by simp, member⟩, name, by simp, rfl, rfl⟩

end FileSystem

end IconComponents
