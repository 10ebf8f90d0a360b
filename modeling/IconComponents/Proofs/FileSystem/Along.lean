/-
**What comes on the way to a location.**

Making a directory or writing a new file adds entries on the way to its location and changes none
that are there. So a path that leads nowhere leads nowhere afterwards, unless it is on that way, and
what is there can still be read.

* `IsTree.locate_path_iff` — when the path of a location leads to it;
* `GrowsAlong` — entries come on the way to a location, and all others stay;
* `growsAlong_makeDirectories`, `growsAlong_write?` — directories and new files;
* `Holds` — a file with a text, which stays if its entry stays.
-/

import IconComponents.Proofs.FileSystem.Parents

namespace IconComponents.FileSystem

variable {files more : FileSystem} {location other : Location} {name : Text} {content : Content}

/-! ### Paths of locations -/

theorem isVacuous_of_isEntryName (named : Path.IsEntryName name) : Path.isVacuous name = false := by
  simp [Path.isVacuous, named.1.1, (not_or.mp named.2).1]

theorem ne_up_of_isEntryName (named : Path.IsEntryName name) : name ≠ ['.', '.'] :=
  (not_or.mp named.2).2

/-- The way along names is the way to a location whose entries are there. -/
theorem IsTree.walk_entryNames_iff (tree : files.IsTree)
    (named : ∀ name ∈ location, Path.IsEntryName name) :
    files.walk [] location = .ok location ↔
      (∀ name ∈ location, isName name = true) ∧ (files.entry? location).isSome = true := by
  induction location using List.reverseRecOn with
  | nil => exact iff_of_true rfl ⟨fun _ member => (nomatch member), rfl⟩
  | append_singleton front last ih =>
    have inner : ∀ name ∈ front, Path.IsEntryName name := fun name member =>
      named name (List.mem_append_left _ member)
    have outer : Path.IsEntryName last := named last (by simp)
    have ih := ih inner
    rw [walk_append_eq_ok_iff]
    constructor
    · rintro ⟨next, way, rest⟩
      obtain ⟨same, -⟩ := walk_of_entryNames inner way
      rw [List.nil_append] at same
      subst same
      obtain ⟨isNames, -⟩ := ih.mp way
      obtain ⟨_, step, same⟩ := walk_cons_eq_ok_iff.mp rest
      cases same
      obtain ⟨-, -, here⟩ := step_eq_ok_iff.mp step
      obtain ⟨isName, there⟩ := here (isVacuous_of_isEntryName outer) (ne_up_of_isEntryName outer)
      refine ⟨fun name member => ?_, there⟩
      rcases List.mem_append.mp member with member | member
      · exact isNames name member
      · exact List.mem_singleton.mp member ▸ isName
    · rintro ⟨isNames, there⟩
      have above := tree _ there
      rw [List.dropLast_concat] at above
      have isName := isNames last (by simp)
      refine ⟨front, ih.mpr ⟨fun name member => isNames name (List.mem_append_left _ member),
        Option.isSome_iff_exists.mpr ⟨_, above⟩⟩, walk_cons_eq_ok_iff.mpr ⟨_, ?_, rfl⟩⟩
      exact step_eq_ok_iff.mpr ⟨above, (target_of_isName isName).symm, fun _ _ => ⟨isName, there⟩⟩

/-- Whether a path can lead to a location at all: no name is too long, and neither is the path. -/
def IsReachable (location : Location) : Prop :=
  (segments? location.path).isSome = true ∧ ∀ name ∈ location, isName name = true

/-- **The path of a location leads to it** exactly if it can and something is there. -/
theorem IsTree.locate_path_iff (tree : files.IsTree)
    (named : ∀ name ∈ location, Path.IsEntryName name) :
    files.locate location.path = .ok location ↔
      IsReachable location ∧ (files.entry? location).isSome = true := by
  have free : ∀ name ∈ location, '/' ∉ name := fun name member => (named name member).1.2
  rw [locate_eq_ok_iff, IsReachable, and_assoc, ← tree.walk_entryNames_iff named]
  constructor
  · rintro ⟨segments, read, way⟩
    exact ⟨Option.isSome_iff_exists.mpr ⟨segments, read⟩, walk_segments_path read free files ▸ way⟩
  · rintro ⟨readable, way⟩
    obtain ⟨segments, read⟩ := Option.isSome_iff_exists.mp readable
    exact ⟨segments, read, (walk_segments_path read free files).symm ▸ way⟩

/-- The path of a directory with a slash behind it leads to it, unless it is too long. -/
theorem IsTree.locate_join_nil (tree : files.IsTree)
    (names : ∀ name ∈ location, isName name = true ∧ '/' ∉ name)
    (directory : files.entry? location = some .directory)
    (short : (segments? (Path.join location.path [])).isSome = true) :
    files.locate (Path.join location.path []) = .ok location := by
  have free : ∀ name ∈ location, '/' ∉ name := fun name member => (names name member).2
  have ending : location = [] ∨ ∃ front last, location = front ++ [last] ∧
      Path.isVacuous last = false := by
    rcases List.eq_nil_or_concat' location with empty | ⟨front, last, rfl⟩
    · exact Or.inl empty
    · exact Or.inr ⟨front, last, rfl, isVacuous_of_isName (names last (by simp)).1⟩
  have way : files.walk [] location = .ok location :=
    (tree.walk_entryNames_iff fun name member =>
      isEntryName_of_isName (names name member).1 (names name member).2).mpr
        ⟨fun name member => (names name member).1, Option.isSome_iff_exists.mpr ⟨_, directory⟩⟩
  obtain ⟨segments, read⟩ := Option.isSome_iff_exists.mp short
  refine locate_eq_ok_iff.mpr ⟨segments, read, ?_⟩
  rw [start, if_pos (Path.isAbsolute_join (Location.isAbsolute_path _) []),
    eq_splitOn_of_segments? read, Path.join_path_nil free ending, Text.splitOn_append,
    ← List.nil_append (List.flatMap _ _), Location.splitOn_flatMap [] free]
  exact walk_append_eq_ok_iff.mpr ⟨location, walk_cons_eq_ok_iff.mpr
    ⟨[], step_eq_ok_iff.mpr ⟨rfl, rfl, fun solid => absurd solid (by decide)⟩, way⟩,
    walk_slashes (fun _ member => List.mem_singleton.mp member) directory⟩

/-- What is at the spelled path of a location is what is there, if the path is short enough. -/
theorem IsTree.pathExists_path_iff (tree : files.IsTree)
    (named : ∀ name ∈ location, Path.IsEntryName name) :
    files.pathExists location.path = true ↔
      IsReachable location ∧ (files.entry? location).isSome = true := by
  rw [pathExists_iff, ← tree.locate_path_iff named]
  constructor
  · rintro ⟨place, found, -⟩
    obtain rfl := locate_path named found
    exact found
  · intro found
    exact ⟨location, found, ((tree.locate_path_iff named).mp found).2⟩

/-! ### Growing along a way -/

/-- Entries come on the way to a location, and all others stay. -/
structure GrowsAlong (location : Location) (files more : FileSystem) : Prop where
  kept : ∀ other entry, files.entry? other = some entry → more.entry? other = some entry
  new : ∀ other, (more.entry? other).isSome = true →
    (files.entry? other).isSome = true ∨ other <+: location

/-- **A path that leads nowhere leads nowhere afterwards**, unless it is on the way. -/
theorem GrowsAlong.not_pathExists (grows : GrowsAlong location files more) (tree : files.IsTree)
    (tree' : more.IsTree) (named : ∀ name ∈ other, Path.IsEntryName name)
    (aside : ¬ other <+: location) (absent : files.pathExists other.path = false) :
    more.pathExists other.path = false := by
  rw [← Bool.not_eq_true, tree'.pathExists_path_iff named]
  rintro ⟨reachable, there⟩
  rcases grows.new other there with before | onWay
  · rw [(tree.pathExists_path_iff named).mpr ⟨reachable, before⟩] at absent
    cases absent
  · exact aside onWay

/-- **Making a directory** adds directories on the way to it. -/
theorem growsAlong_makeDirectories (named : ∀ name ∈ location, Path.IsEntryName name) :
    GrowsAlong location files (files.makeDirectories location.path).2 := by
  have opens := makeDirectories_opens files location.path
  refine ⟨opens.adds.kept, fun other there => ?_⟩
  rcases opens.entry other with same | ⟨-, -, path, member, led⟩
  · exact Or.inl (same ▸ there)
  · rw [Path.parents_path named] at member
    refine Or.inr ?_
    rcases List.mem_cons.mp member with rfl | member
    · rw [locate_path named led]
    · obtain ⟨start, above, rfl⟩ := List.mem_map.mp member
      rw [Path.starts_eq_inits] at above
      have inside := (List.mem_inits _ _).mp (List.dropLast_subset _ (List.mem_reverse.mp above))
      rw [locate_path (fun name member => named name (inside.subset member)) led]
      exact inside

/-- Making a directory at a location keeps a tree, which grows along the location. -/
theorem isTree_growsAlong_of_made (tree : files.IsTree)
    (named : ∀ name ∈ location, Path.IsEntryName name)
    (made : files.makeDirectories location.path = (true, more)) :
    more.IsTree ∧ GrowsAlong location files more := by
  have grows : GrowsAlong location files (files.makeDirectories location.path).2 :=
    growsAlong_makeDirectories named
  have adds := (makeDirectories_adds files location.path).isTree tree
  rw [made] at grows adds
  exact ⟨adds, grows⟩

/-- **Writing a file that is not there** adds it. -/
theorem growsAlong_write? (tree : files.IsTree) (named : ∀ name ∈ location, Path.IsEntryName name)
    (missing : files.pathExists location.path = false)
    (written : files.write? location.path content = some more) :
    GrowsAlong location files more ∧ more.locate location.path = .ok location ∧
      more.entry? location = some (.file content) := by
  have tree' := write?_isTree tree written
  obtain ⟨place, below, rfl, -, -, led⟩ := write?_places written
  obtain rfl := locate_path named led
  have absent : files.entry? place = none := by
    rw [← Option.not_isSome_iff_eq_none]
    intro there
    have reachable := ((tree'.locate_path_iff named).mp led).1
    rw [(tree.pathExists_path_iff named).mpr ⟨reachable, there⟩] at missing
    cases missing
  refine ⟨⟨fun other entry there => ?_, fun other there => ?_⟩, led, ?_⟩
  · rw [entry?_put below, if_neg]
    · exact there
    · rintro rfl
      rw [absent] at there
      cases there
  · rw [entry?_put below] at there
    split at there
    · next same => exact Or.inr (same ▸ List.prefix_refl _)
    · exact Or.inl there
  · rw [entry?_put below, if_pos rfl]

/-! ### Files with a text -/

/-- A file with a text, at the end of its path. -/
structure Holds (files : FileSystem) (location : Location) (text : Text) : Prop where
  led : files.locate location.path = .ok location
  file : files.entry? location = some (.file (.text text))

/-- A held text is what is read at the path of its location. -/
theorem Holds.read? {text : Text} (holds : files.Holds location text) :
    (files.read? location.path).bind Content.text? = some text := by
  have found : files.read? location.path = some (.text text) := by
    rw [FileSystem.read?, find?, holds.led]
    simp only
    rw [holds.file]
  rw [found]
  rfl

theorem Holds.isFile {text : Text} (holds : files.Holds location text) :
    files.isFile location.path = true :=
  isFile_iff.mpr ⟨location, .text text, holds.led, holds.file⟩

/-- **A file that stays** has its text wherever else files come and go. -/
theorem Holds.of_same {text : Text} (holds : files.Holds location text) (tree : files.IsTree)
    (tree' : more.IsTree) (named : ∀ name ∈ location, Path.IsEntryName name)
    (same : more.entry? location = files.entry? location) : more.Holds location text := by
  have file := same.trans holds.file
  have reachable := ((tree.locate_path_iff named).mp holds.led).1
  exact ⟨(tree'.locate_path_iff named).mpr ⟨reachable, by rw [file]; rfl⟩, file⟩

end IconComponents.FileSystem
