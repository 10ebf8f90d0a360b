/-
**Paths in a tree of files.**

In a tree of files everything lies in a directory. The way to a name in a directory then comes apart
into the way to the directory and one step (`locate_join`), and a path without `..` only leads down,
through directories that are there if its end is (`walk_of_down`). A `FileTree` is a file system in
which this is so.
-/

import Mathlib.Data.List.Induction
import IconComponents.Proofs.FileSystem.Change
import IconComponents.Proofs.Text.Pieces

namespace IconComponents

namespace Text

theorem byteLength_append (left right : Text) :
    (left ++ right).byteLength = left.byteLength + right.byteLength := by
  have shift : ∀ (text : Text) (size : Nat),
      text.foldl (fun size c => size + c.utf8Size) size = size + text.byteLength := by
    intro text
    induction text with
    | nil => exact fun size => rfl
    | cons c text ih =>
      intro size
      rw [byteLength, List.foldl_cons, List.foldl_cons, ih, ih]
      omega
  rw [byteLength, List.foldl_append, shift]
  rfl

end Text

namespace FileSystem

variable {files more : FileSystem} {location place : Location} {segments : List Text}
  {base name path : Text}

/-! ### A name in a directory -/

/-- The segments of a path are its pieces between slashes. -/
theorem eq_splitOn_of_segments? (read : segments? path = some segments) :
    segments = Text.splitOn '/' path := by
  unfold segments? at read
  split at read
  · cases read
  · exact (Option.some.inj read).symm

theorem segments?_append {ahead behind : Text} {segments : List Text} (nonempty : ahead ≠ [])
    (read : segments? (ahead ++ behind) = some segments) :
    segments? ahead = some (Text.splitOn '/' ahead) := by
  unfold segments? at read ⊢
  split at read
  · cases read
  · next fine =>
    simp only [Bool.or_eq_true, List.isEmpty_iff, decide_eq_true_eq, not_or, List.elem_iff,
      List.mem_append, Text.byteLength_append] at fine
    rw [if_neg]
    simp only [Bool.or_eq_true, List.isEmpty_iff, decide_eq_true_eq, not_or, List.elem_iff]
    exact ⟨⟨nonempty, fine.1.2.1⟩, by omega⟩

theorem isAbsolute_eq_true_iff : Path.isAbsolute path = true ↔ ∃ rest, path = '/' :: rest := by
  unfold Path.isAbsolute
  split
  · simp
  · next other => exact iff_of_false (by simp) fun ⟨rest, same⟩ => other rest same

theorem isAbsolute_append {ahead : Text} (nonempty : ahead ≠ []) (behind : Text) :
    Path.isAbsolute (ahead ++ behind) = Path.isAbsolute ahead := by
  obtain ⟨c, ahead, rfl⟩ := List.exists_cons_of_ne_nil nonempty
  rw [Bool.eq_iff_iff, isAbsolute_eq_true_iff, isAbsolute_eq_true_iff]
  simp

theorem start_append {ahead : Text} (nonempty : ahead ≠ []) (behind : Text) :
    files.start (ahead ++ behind) = files.start ahead := by
  rw [start, start, isAbsolute_append nonempty]

/-- **The way to a name in a directory** is the way to the directory and a step. A slash at the end
of the base leaves an empty segment, which leads nowhere. -/
theorem locate_join (nonempty : base ≠ []) (free : '/' ∉ name)
    (found : files.locate (Path.join base name) = .ok place) :
    ∃ directory, files.locate base = .ok directory ∧ files.step directory name = .ok place := by
  have relative : Path.isAbsolute name = false := by
    rw [← Bool.not_eq_true, isAbsolute_eq_true_iff]
    rintro ⟨rest, rfl⟩
    exact free List.mem_cons_self
  have ⟨behind, ahead, joined, pieces, turn⟩ : ∃ behind ahead, Path.join base name = base ++ behind ∧
      Text.splitOn '/' (base ++ behind) = ahead ++ [name] ∧
        (Text.splitOn '/' base = ahead ∨ Text.splitOn '/' base = ahead ++ [[]]) := by
    by_cases slash : base.getLast? = some '/'
    · obtain ⟨front, rfl⟩ := List.getLast?_eq_some_iff.mp slash
      refine ⟨name, Text.splitOn '/' front, ?_, ?_, Or.inr (Text.splitOn_append '/' front [])⟩
      · simp [Path.join, relative]
      · rw [List.append_assoc, List.singleton_append, Text.splitOn_append,
          Text.splitOn_of_free free]
    · refine ⟨'/' :: name, Text.splitOn '/' base, ?_, ?_, Or.inl rfl⟩
      · simp [Path.join, relative, nonempty, slash]
      · rw [Text.splitOn_append, Text.splitOn_of_free free]
  rw [joined] at found
  obtain ⟨segments, read, way⟩ := locate_eq_ok_iff.mp found
  rw [eq_splitOn_of_segments? read, pieces, start_append nonempty, walk_append_eq_ok_iff] at way
  obtain ⟨directory, before, last⟩ := way
  obtain ⟨next, step, rest⟩ := walk_cons_eq_ok_iff.mp last
  cases rest
  refine ⟨directory, locate_eq_ok_iff.mpr ⟨_, segments?_append nonempty read, ?_⟩, step⟩
  rcases turn with same | same
  · rw [same]
    exact before
  · rw [same]
    refine walk_append_eq_ok_iff.mpr ⟨directory, before, walk_slashes (by simp) ?_⟩
    exact (step_eq_ok_iff.mp step).1

/-! ### Trees -/

/-- Everything lies in a directory. -/
def IsTree (files : FileSystem) : Prop :=
  ∀ location, (files.entry? location).isSome = true →
    files.entry? location.dropLast = some .directory

/-- A tree, by its entries. -/
theorem isTree_of_entries
    (above : ∀ entry ∈ files.entries, files.entry? entry.1.dropLast = some .directory) :
    files.IsTree := by
  intro location there
  by_cases root : location = []
  · subst root
    rfl
  · rw [entry?_below root, Option.isSome_iff_exists] at there
    obtain ⟨entry, found⟩ := there
    obtain ⟨ahead, behind, entries, -⟩ := List.lookup_eq_some_iff.mp found
    refine above (location, entry) ?_
    rw [entries]
    simp

/-- A tree to which directories are added is one. -/
theorem Adds.isTree (adds : Adds files more) (tree : files.IsTree) : more.IsTree := by
  intro location there
  rcases adds.parent location there with before | above
  · exact adds.kept _ _ (tree location before)
  · exact above

/-- What is above something in a tree is a directory. -/
theorem IsTree.above (tree : files.IsTree) (start : location <+: place)
    (there : files.entry? place = some .directory) : files.entry? location = some .directory := by
  obtain ⟨names, rfl⟩ := start
  induction names using List.reverseRecOn with
  | nil => rwa [List.append_nil] at there
  | append_singleton names name ih =>
    refine ih ?_
    have above := tree _ (Option.isSome_iff_exists.mpr ⟨_, there⟩)
    rwa [← List.append_assoc, List.dropLast_concat] at above

/-- A segment that leads to a file is its name. -/
theorem IsTree.target_of_file {segment : Text} {content : Content} (tree : files.IsTree)
    (directory : files.entry? location = some .directory)
    (file : files.entry? (target location segment) = some (.file content)) :
    target location segment = location ++ [segment] := by
  unfold target at file ⊢
  split at file
  · rw [directory] at file
    cases file
  · next solid =>
    rw [if_neg solid]
    split at file
    · rw [tree location (Option.isSome_iff_exists.mpr ⟨_, directory⟩)] at file
      cases file
    · next name => rw [if_neg name]

theorem target_isPrefix {segment : Text} (down : segment ≠ ['.', '.']) :
    location <+: target location segment := by
  rw [target, if_neg down]
  split
  · exact List.prefix_refl location
  · exact List.prefix_append location [segment]

/-- A path without `..` leads down. -/
theorem isPrefix_of_walk (down : ['.', '.'] ∉ segments)
    (found : files.walk location segments = .ok place) : location <+: place := by
  induction segments generalizing location with
  | nil =>
    cases found
    exact List.prefix_refl _
  | cons segment segments ih =>
    obtain ⟨next, step, way⟩ := walk_cons_eq_ok_iff.mp found
    obtain ⟨-, rfl, -⟩ := step_eq_ok_iff.mp step
    rw [List.mem_cons, not_or] at down
    exact (target_isPrefix (Ne.symm down.1)).trans (ih down.2 way)

/-- **A path without `..` leads down**: what is on the way is there if its end is. -/
theorem IsTree.walk_of_down (tree : files.IsTree) (down : ['.', '.'] ∉ segments)
    (there : files.entry? place = some .directory)
    (found : more.walk location segments = .ok place) :
    files.walk location segments = .ok place := by
  induction segments generalizing location with
  | nil => exact found
  | cons segment segments ih =>
    obtain ⟨next, step, way⟩ := walk_cons_eq_ok_iff.mp found
    have start := isPrefix_of_walk down found
    rw [List.mem_cons, not_or] at down
    have onward := isPrefix_of_walk down.2 way
    obtain ⟨-, target, named⟩ := step_eq_ok_iff.mp step
    refine walk_cons_eq_ok_iff.mpr ⟨next, step_eq_ok_iff.mpr ⟨tree.above start there, target, ?_⟩,
      ih down.2 way⟩
    intro solid up
    exact ⟨(named solid up).1, Option.isSome_iff_exists.mpr ⟨_, tree.above onward there⟩⟩

end FileSystem

/-- **A tree of files**: a file system in which everything lies in a directory. -/
structure FileTree extends FileSystem where
  isTree : toFileSystem.IsTree

instance : Coe FileTree FileSystem := ⟨FileTree.toFileSystem⟩

end IconComponents
