/-
**The search for the configuration file.**

The search looks into the working directory and then into the directories above it. A directory is
above another one if its location is a start of the other's, so what is found is the file in the
longest start of the working directory that has one.

* `HasCurrent`, `Workplace` — the working directory is there, in a tree of files;
* `findConfig?_eq_some_iff` — the file that is found;
* `findConfig?_of_nearest` — a file below which there is none nearer.
-/

import IconComponents.Proofs.Config.Load
import IconComponents.Proofs.FileSystem.Along

namespace IconComponents

open FileSystem

variable {files : FileSystem} {location project below : Location} {name path : Text}

/-- The working directory is there, also with a slash behind its path. -/
def FileSystem.HasCurrent (files : FileSystem) : Prop :=
  files.locate (Path.join files.currentPath []) = .ok files.current

instance (files : FileSystem) : Decidable files.HasCurrent :=
  inferInstanceAs (Decidable (files.locate (Path.join files.currentPath []) = .ok files.current))

theorem FileSystem.HasCurrent.isEntryName (here : files.HasCurrent) :
    ∀ name ∈ files.current, Path.IsEntryName name :=
  isEntryName_of_locate (Path.isAbsolute_join (Location.isAbsolute_path _) []) here

/-- **A place to work in**: a tree of files, seen from a directory that is there. -/
structure Workplace extends FileTree where
  here : toFileSystem.HasCurrent

instance : Coe Workplace FileTree := ⟨Workplace.toFileTree⟩

/-- **Entering a directory** of a place to work in makes another one, unless its path is too
long. -/
theorem FileSystem.enter?_hasCurrent (files : Workplace) {more : FileSystem}
    (entered : files.enter? path = some more)
    (short : (segments? (Path.join more.currentPath [])).isSome = true) :
    more.IsTree ∧ more.HasCurrent := by
  have names : ∀ name ∈ files.start path, isName name = true ∧ '/' ∉ name := by
    unfold start
    split
    · exact fun _ member => (List.not_mem_nil member).elim
    · refine isName_of_locate ?_ files.here
      have absolute : Path.isAbsolute (Path.join files.currentPath []) = true :=
        Path.isAbsolute_join (Location.isAbsolute_path _) []
      rw [start, if_pos absolute]
      exact fun _ member => (List.not_mem_nil member).elim
  unfold enter? at entered
  split at entered
  · next place found =>
    split at entered
    · next directory =>
      cases entered
      have tree : IsTree { files.toFileSystem with current := place } := files.isTree
      exact ⟨tree, tree.locate_join_nil (isName_of_locate names found) directory short⟩
    · cases entered
  · cases entered

/-- The first hit among the starts of a list, the longest first, is the one of the longest start
that has a hit. -/
theorem find?_starts_eq_some_iff {α β : Type} {list : List α} {f : List α → β} {holds : β → Bool}
    {b : β} : ((Path.starts list).reverse.map f).find? holds = some b ↔
      ∃ start, start <+: list ∧ b = f start ∧ holds b = true ∧
        ∀ other, other <+: list → start.length < other.length → holds (f other) = false := by
  induction list using List.reverseRecOn with
  | nil =>
    rw [Path.starts, List.reverse_singleton, List.map_singleton, List.find?_singleton]
    constructor
    · intro found
      split at found
      · next hit =>
        cases found
        refine ⟨[], List.prefix_refl _, rfl, hit, fun other start longer => ?_⟩
        rw [List.prefix_nil.mp start] at longer
        exact absurd longer (Nat.lt_irrefl _)
      · cases found
    · rintro ⟨start, empty, rfl, hit, -⟩
      rw [List.prefix_nil.mp empty] at hit ⊢
      rw [if_pos hit]
  | append_singleton list a ih =>
    rw [Path.starts_concat, List.reverse_append, List.reverse_singleton, List.singleton_append,
      List.map_cons, List.find?_cons]
    cases hit : holds (f (list ++ [a])) with
    | true =>
      constructor
      · intro found
        cases found
        refine ⟨_, List.prefix_refl _, rfl, hit, fun other start longer => ?_⟩
        exact absurd longer (Nat.not_lt_of_le start.length_le)
      · rintro ⟨start, inside, rfl, hit', nearest⟩
        rcases List.prefix_concat_iff.mp inside with rfl | inside
        · rfl
        · have shorter : start.length < (list ++ [a]).length := by
            have bound := inside.length_le
            simp
            omega
          rw [nearest _ (List.prefix_refl _) shorter] at hit
          cases hit
    | false =>
      refine ih.trans (exists_congr fun start => ?_)
      constructor
      · rintro ⟨inside, rfl, hit', nearest⟩
        refine ⟨inside.trans (List.prefix_append _ _), rfl, hit', fun other start' longer => ?_⟩
        rcases List.prefix_concat_iff.mp start' with rfl | start'
        · exact hit
        · exact nearest other start' longer
      · rintro ⟨inside, rfl, hit', nearest⟩
        rcases List.prefix_concat_iff.mp inside with rfl | inside
        · rw [hit] at hit'
          cases hit'
        · exact ⟨inside, rfl, hit', fun other start' =>
            nearest other (start'.trans (List.prefix_append _ _))⟩

namespace Config

/-- **The file that is found** is the one in the nearest directory that has one. -/
theorem findConfig?_eq_some_iff (here : files.HasCurrent) (named : Path.IsEntryName name) :
    findConfig? files files.currentPath name = some path ↔
      ∃ place, place <+: files.current ∧ path = Location.path (place ++ [name]) ∧
        files.isFile path = true ∧
        ∀ other, other <+: files.current → place.length < other.length →
          files.isFile (Location.path (other ++ [name])) = false := by
  have relative : Path.isAbsolute name = false := isAbsolute_of_free named.1.2
  have joined : ∀ place, place <+: files.current →
      Path.join (Location.path place) name = Location.path (place ++ [name]) := fun place start =>
    Location.join_path (fun segment member => (here.isEntryName segment (start.subset member)).1)
      named.1.2
  have candidates : files.currentPath :: Path.parents files.currentPath =
      (Path.starts files.current).reverse.map Location.path := by
    rw [currentPath, Path.parents_path here.isEntryName]
    conv_rhs => rw [Path.starts_eq_dropLast]
    rw [List.reverse_append, List.reverse_singleton, List.singleton_append, List.map_cons]
  rw [findConfig?, relative, if_neg Bool.false_ne_true, candidates, List.map_map,
    find?_starts_eq_some_iff]
  refine exists_congr fun place => and_congr_right fun start => ?_
  rw [Function.comp_apply, joined place start]
  refine and_congr_right fun _ => and_congr_right fun _ => forall_congr' fun other => ?_
  refine forall_congr' fun start' => ?_
  rw [Function.comp_apply, joined other start']

/-- A file above the working directory is found if none is nearer. -/
theorem findConfig?_of_nearest (here : files.HasCurrent) (named : Path.IsEntryName name)
    (current : files.current = project ++ below)
    (file : files.isFile (Location.path (project ++ [name])) = true)
    (nearer : ∀ names, names ≠ [] → names <+: below →
      files.isFile (Location.path (project ++ names ++ [name])) = false) :
    findConfig? files files.currentPath name = some (Location.path (project ++ [name])) := by
  rw [findConfig?_eq_some_iff here named, current]
  refine ⟨project, List.prefix_append _ _, rfl, file, fun other start longer => ?_⟩
  obtain ⟨names, rfl⟩ := List.prefix_of_prefix_length_le (List.prefix_append project below) start
    (Nat.le_of_lt longer)
  refine nearer names ?_ ((List.prefix_append_right_inj project).mp start)
  rintro rfl
  rw [List.append_nil] at longer
  exact Nat.lt_irrefl _ longer

/-- What is found is an absolute path. -/
theorem isAbsolute_of_findConfig? (found : findConfig? files files.currentPath name = some path) :
    Path.isAbsolute path = true := by
  unfold findConfig? at found
  split at found
  · next absolute =>
    split at found
    · cases found
      exact absolute
    · cases found
  · obtain ⟨place, member, rfl⟩ := List.mem_map.mp (List.mem_of_find?_eq_some found)
    have absolute := Location.isAbsolute_path files.current
    rcases List.mem_cons.mp member with rfl | member
    · exact Path.isAbsolute_join absolute name
    · exact Path.isAbsolute_join (Path.isAbsolute_of_mem_parents absolute member) name

end Config

end IconComponents
