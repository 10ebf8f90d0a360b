/-
**Names in the directory of a path.**

Names joined to a path are looked up in one directory, however the path is spelled: relative or
absolute, with `..` in it, or with slashes at its end. The nearest parent of such a name leads to that
directory, and making a directory there makes one entry.

* `IsBase` — the directory that names joined to a path are looked up in;
* `IsBase.walk_of_locate`, `IsBase.locate_of_walk` — where such names lead;
* `IsBase.parent?_opened` — the nearest parent of a name;
* `IsBase.makeDirectories_join` — a directory in the directory;
* `LeadsThrough` — the directories on the way to a path, where each of its parents leads.
-/

import IconComponents.Proofs.FileSystem.Along
import IconComponents.Proofs.Path.Spelling

namespace IconComponents.FileSystem

variable {files more : FileSystem} {base place : Location} {root path name head : Text}
  {names segments body : List Text} {made : Bool}

/-! ### The directory of a path -/

theorem start_eq (same : Path.isAbsolute path = Path.isAbsolute root) (files : FileSystem) :
    files.start path = files.start root := by
  rw [start, start, same]

/-- The directory that names joined to a path are looked up in. For the empty path this is the
working directory, whether or not it is there. -/
structure IsBase (files : FileSystem) (root : Text) (base : Location) : Prop where
  way : files.walk (files.start root) (Path.trunk root) = .ok base
  directory : root = [] ∨
    files.locate root = .ok base ∧ files.entry? base = some .directory

/-- A directory has a base, and so has the empty path. -/
theorem exists_isBase (opened : root = [] ∨ files.isDirectory root = true) :
    ∃ base, IsBase files root base := by
  rcases opened with rfl | directory
  · exact ⟨files.current, rfl, Or.inl rfl⟩
  · obtain ⟨base, found, there⟩ := isDirectory_iff.mp directory
    refine ⟨base, ?_, Or.inr ⟨found, there⟩⟩
    obtain ⟨segments, read, way⟩ := locate_eq_ok_iff.mp found
    rw [eq_splitOn_of_segments? read] at way
    have nonempty : root ≠ [] := by
      rintro rfl
      cases read
    rcases Path.splitOn_eq_trunk nonempty with same | same
    · rwa [same] at way
    · rw [same, walk_append_eq_ok_iff] at way
      obtain ⟨next, onward, stay⟩ := way
      rwa [walk_of_vacuous (by decide) stay]

theorem IsBase.opened (isBase : IsBase files root base) :
    root = [] ∨ files.isDirectory root = true :=
  isBase.directory.imp_right fun there => isDirectory_iff.mpr ⟨base, there⟩

/-- A base stays one while files are added. -/
theorem IsBase.of_grows (isBase : IsBase files root base) (grows : Grows files more) :
    IsBase more root base := by
  refine ⟨?_, isBase.directory.imp_right fun ⟨found, there⟩ =>
    ⟨grows.locate found, grows.directory _ there⟩⟩
  rw [grows.start]
  exact grows.walk isBase.way

/-- There is one base only. -/
theorem IsBase.unique {other : Location} (first : IsBase files root base)
    (second : IsBase files root other) : base = other :=
  Except.ok.inj (first.way.symm.trans second.way)

/-- **Names joined to a path** are looked up in its directory. -/
theorem IsBase.walk_of_locate (isBase : IsBase files root base) (nonempty : names ≠ [])
    (named : ∀ name ∈ names, Path.IsSegment name)
    (found : files.locate (names.foldl Path.join root) = .ok place) :
    files.walk base names = .ok place := by
  obtain ⟨segments, read, way⟩ := locate_eq_ok_iff.mp found
  rw [eq_splitOn_of_segments? read, Path.splitOn_foldl_join root nonempty named,
    start_eq (Path.isAbsolute_foldl_join_of_segments root named)] at way
  obtain ⟨next, onward, inside⟩ := walk_append_eq_ok_iff.mp way
  rw [isBase.way] at onward
  cases onward
  exact inside

/-- A walk from the base is a path below it. -/
theorem IsBase.locate_of_walk (isBase : IsBase files root base) (nonempty : names ≠ [])
    (named : ∀ name ∈ names, Path.IsSegment name)
    (readable : (segments? (names.foldl Path.join root)).isSome = true)
    (inside : files.walk base names = .ok place) :
    files.locate (names.foldl Path.join root) = .ok place := by
  obtain ⟨segments, read⟩ := Option.isSome_iff_exists.mp readable
  refine locate_eq_ok_iff.mpr ⟨segments, read, ?_⟩
  rw [eq_splitOn_of_segments? read, Path.splitOn_foldl_join root nonempty named,
    start_eq (Path.isAbsolute_foldl_join_of_segments root named)]
  exact walk_append_eq_ok_iff.mpr ⟨base, isBase.way, inside⟩

/-- What names lead to in one tree, they lead to in another one where it is there. -/
theorem IsTree.walk_of_present (tree : files.IsTree)
    (named : ∀ name ∈ names, Path.IsEntryName name)
    (there : (files.entry? place).isSome = true) (found : more.walk base names = .ok place) :
    files.walk base names = .ok place := by
  rcases List.eq_nil_or_concat' names with rfl | ⟨front, last, rfl⟩
  · exact found
  · obtain ⟨next, way, final⟩ := walk_append_eq_ok_iff.mp found
    obtain ⟨_, step, same⟩ := walk_cons_eq_ok_iff.mp final
    cases same
    have outer : Path.IsEntryName last := named last (by simp)
    obtain ⟨-, rfl, here⟩ := step_eq_ok_iff.mp step
    obtain ⟨isName, -⟩ := here (isVacuous_of_isEntryName outer) (ne_up_of_isEntryName outer)
    have above := tree _ there
    rw [target_of_isName isName, List.dropLast_concat] at above
    have down : ['.', '.'] ∉ front := fun member =>
      ne_up_of_isEntryName (named _ (List.mem_append_left _ member)) rfl
    exact walk_append_eq_ok_iff.mpr ⟨next, tree.walk_of_down down above way,
      walk_cons_eq_ok_iff.mpr ⟨_, step_eq_ok_iff.mpr ⟨above, rfl, fun _ _ => ⟨isName, there⟩⟩, rfl⟩⟩

/-- The directory of a path without `..` was the same before, if it was there. -/
theorem IsTree.isBase_of_down (tree : files.IsTree) (grows : Grows files more)
    (down : ['.', '.'] ∉ Text.splitOn '/' root) (isBase : IsBase more root base)
    (there : files.entry? base = some .directory) : IsBase files root base := by
  refine ⟨?_, ?_⟩
  · refine tree.walk_of_down (fun member => down ?_) there (grows.start root ▸ isBase.way)
    by_cases empty : root = []
    · subst empty
      cases member
    · rcases Path.splitOn_eq_trunk empty with same | same <;> rw [same]
      · exact member
      · exact List.mem_append_left _ member
  · rcases isBase.directory with empty | ⟨found, -⟩
    · exact Or.inl empty
    · obtain ⟨segments, read, way⟩ := locate_eq_ok_iff.mp found
      rw [eq_splitOn_of_segments? read, grows.start] at way
      refine Or.inr ⟨locate_eq_ok_iff.mpr ⟨segments, read, ?_⟩, there⟩
      rw [eq_splitOn_of_segments? read]
      exact tree.walk_of_down down there way

/-! ### The parent of a name -/

/-- What is left out at the end of a path leads nowhere new. -/
theorem locate_spell_strip (split : Text.splitOn '/' root = head :: body)
    (found : files.locate root = .ok base) :
    files.locate (Path.spell head (Path.strip body)) = .ok base := by
  obtain ⟨segments, read, way⟩ := locate_eq_ok_iff.mp found
  have nonempty : root ≠ [] := by
    rintro rfl
    cases read
  have spelled := Path.eq_spell_of_splitOn split nonempty
  have free : ∀ segment ∈ head :: body, '/' ∉ segment := fun segment member =>
    Text.not_mem_of_mem_splitOn (split ▸ member)
  rw [eq_splitOn_of_segments? read, split] at way
  obtain ⟨⟨vacuous, whole, all⟩, -⟩ := Path.exists_strip body
  by_cases top : head = [] ∧ Path.strip body = []
  · -- only the root is left
    obtain ⟨rfl, empty⟩ := top
    rw [empty, List.nil_append] at whole
    rw [spelled, Path.spell_root, start, if_pos (Location.isAbsolute_path body), whole] at way
    have stays : base = [] :=
      walk_of_vacuous (List.forall_mem_cons.mpr ⟨rfl, all⟩) way
    rw [stays, empty]
    exact locate_eq_ok_iff.mpr ⟨[[], []], by decide, walk_slashes (by decide) rfl⟩
  · have some : head ≠ [] ∨ Path.strip body ≠ [] := not_and_or.mp top
    have longer : root = Path.spell head (Path.strip body) ++ vacuous.flatMap ('/' :: ·) := by
      rw [spelled, Path.spell, Path.spell, if_neg top, if_neg, List.append_assoc,
        ← List.flatMap_append, ← whole]
      rintro ⟨rfl, rfl⟩
      exact top ⟨rfl, rfl⟩
    have pieces : Text.splitOn '/' (Path.spell head (Path.strip body)) =
        head :: Path.strip body := by
      refine Path.splitOn_spell some fun segment member => free segment ?_
      rw [whole, ← List.cons_append]
      exact List.mem_append_left _ member
    have solid : Path.spell head (Path.strip body) ≠ [] := by
      intro empty
      rw [empty] at pieces
      obtain ⟨rfl, none⟩ := List.cons.inj pieces
      exact top ⟨rfl, none.symm⟩
    rw [longer] at read
    rw [whole, ← List.cons_append, walk_append_eq_ok_iff] at way
    obtain ⟨next, onward, stay⟩ := way
    obtain rfl := walk_of_vacuous all stay
    refine locate_eq_ok_iff.mpr ⟨_, segments?_append solid read, ?_⟩
    rw [pieces, ← start_append solid (vacuous.flatMap ('/' :: ·)), ← longer]
    exact onward

/-- **The nearest parent of a name in a directory** is there. -/
theorem IsBase.parent?_opened (isBase : IsBase files root base) (named : Path.IsEntryName name) :
    ∃ above, Path.parent? (Path.join root name) = some above ∧
      (above = [] ∨ files.isDirectory above = true) := by
  have split := Path.splitOn_join root named.1.2
  rcases Path.parent?_of_splitOn split (isVacuous_of_isEntryName named) with
    ⟨-, parent⟩ | ⟨head, segments, front, parent⟩
  · exact ⟨_, parent, Or.inl rfl⟩
  · refine ⟨_, parent, Or.inr ?_⟩
    rcases isBase.directory with rfl | ⟨found, there⟩
    · cases front
    · have nonempty : root ≠ [] := by
        rintro rfl
        cases front
      refine isDirectory_iff.mpr ⟨base, ?_, there⟩
      rcases Path.splitOn_eq_trunk nonempty with same | same
      · exact locate_spell_strip (same.trans front) found
      · rw [front, List.cons_append] at same
        have located := locate_spell_strip same found
        rwa [Path.strip_concat_of_vacuous rfl] at located

/-! ### A directory in the directory -/

theorem solid_concat {last : Text} (nonempty : last ≠ []) (front : List Text) :
    solid (front ++ [last]) = front ++ [last] := by
  rw [solid, List.reverse_append, List.reverse_singleton, List.singleton_append,
    List.dropWhile_cons_of_neg (by simpa using nonempty), List.reverse_cons, List.reverse_reverse]

/-- The directory in which a name of the base would be is there. -/
theorem IsBase.makeDirectory_join (isBase : IsBase files root base)
    (named : Path.IsEntryName name) : files.makeDirectory (Path.join root name) ≠ .missing := by
  cases read : segments? (Path.join root name) with
  | none =>
    rw [makeDirectory, read]
    intro same
    cases same
  | some segments =>
    have pieces := eq_splitOn_of_segments? read
    rw [Path.splitOn_join root named.1.2] at pieces
    subst pieces
    rw [makeDirectory_of_solid read (solid_concat named.1.1 _),
      start_eq (Path.isAbsolute_join_of_relative root (isAbsolute_of_free named.1.2)), isBase.way]
    simp only
    intro missing
    split at missing
    · split at missing <;> cases missing
    · cases missing

/-- Nothing but the last directory is made if it has a place. -/
theorem makeDirectories_of_ne_missing (nonempty : path ≠ [])
    (placed : files.makeDirectory path ≠ .missing) :
    files.makeDirectories path = files.ensure path := by
  have some : ¬ path.isEmpty = true := by simpa using nonempty
  rw [makeDirectories]
  cases Path.parents path with
  | nil => rw [makeBelow, if_neg some]
  | cons parent others =>
    rw [makeBelow, if_neg some]
    split
    · next missing => exact absurd missing placed
    · rfl

/-- **Making a directory in a directory** makes one entry, or none. -/
theorem IsBase.makeDirectories_join (isBase : IsBase files root base)
    (named : Path.IsEntryName name)
    (making : files.makeDirectories (Path.join root name) = (made, more)) :
    more = files ∨ files.entry? (base ++ [name]) = none ∧
      files.entry? base = some .directory ∧ more = files.put (base ++ [name]) .directory ∧
        more.locate (Path.join root name) = .ok (base ++ [name]) := by
  rw [makeDirectories_of_ne_missing (Path.join_segment_ne_nil root named.1)
    (isBase.makeDirectory_join named), ensure] at making
  split at making
  · next opened one =>
    obtain ⟨-, rfl⟩ := Prod.mk.inj making
    obtain ⟨location, -, absent, above, same, led⟩ := makeDirectory_eq_made one
    have grows := (makeDirectory_made one).1.grows
    have inside := (isBase.of_grows grows).walk_of_locate (List.cons_ne_nil name [])
      (by simpa using named.1) led
    obtain ⟨rfl, -⟩ := walk_of_entryNames (by simpa using named) inside
    rw [List.dropLast_concat] at above
    exact Or.inr ⟨absent, above, same, led⟩
  · exact Or.inl (Prod.mk.inj making).2.symm

/-! ### On the way to a path -/

/-- A path leads through a place: a start of its segments leads there. -/
def LeadsThrough (files : FileSystem) (path : Text) (place : Location) : Prop :=
  ∃ front, front <+: Text.splitOn '/' path ∧ files.walk (files.start path) front = .ok place

theorem LeadsThrough.of_grows (through : LeadsThrough files path place)
    (grows : Grows files more) : LeadsThrough more path place := by
  obtain ⟨front, start, way⟩ := through
  refine ⟨front, start, ?_⟩
  rw [grows.start]
  exact grows.walk way

/-- **A path leads through** where its parents lead. -/
theorem leadsThrough_of_mem_parents {above : Text} (member : above ∈ path :: Path.parents path)
    (found : files.locate above = .ok place) : LeadsThrough files path place := by
  obtain ⟨segments, read, way⟩ := locate_eq_ok_iff.mp found
  rw [eq_splitOn_of_segments? read] at way
  rcases List.mem_cons.mp member with rfl | member
  · exact ⟨_, List.prefix_refl _, way⟩
  · rcases Path.spelled_of_mem_parents member with rfl | ⟨head, body, front, split, start, rfl⟩
    · cases read
    · have free : ∀ segment ∈ head :: front, '/' ∉ segment := fun segment member =>
        Text.not_mem_of_mem_splitOn
          (split ▸ (List.cons_prefix_cons.mpr ⟨rfl, start⟩).subset member)
      have nonempty : path ≠ [] := by
        rintro rfl
        cases member
      have first : Path.isAbsolute (Path.spell head front) = Path.isAbsolute path := by
        rw [Path.eq_spell_of_splitOn split nonempty]
        by_cases empty : head = []
        · rw [empty, Path.spell_root, Path.spell_root, Location.isAbsolute_path,
            Location.isAbsolute_path]
        · rw [Path.spell_of_ne_nil empty, Path.spell_of_ne_nil empty, isAbsolute_append empty,
            isAbsolute_append empty]
      by_cases top : head = [] ∧ front = []
      · obtain ⟨rfl, rfl⟩ := top
        refine ⟨[[]], split ▸ List.cons_prefix_cons.mpr ⟨rfl, List.nil_prefix⟩, ?_⟩
        rw [start_eq first.symm]
        obtain ⟨next, step, rest⟩ := walk_cons_eq_ok_iff.mp (show files.walk
          (files.start (Path.spell [] [])) [[], []] = .ok place from way)
        rw [walk_of_vacuous (by decide) rest]
        exact walk_cons_eq_ok_iff.mpr ⟨next, step, rfl⟩
      · rw [Path.splitOn_spell (not_and_or.mp top) free, start_eq first] at way
        exact ⟨_, split ▸ List.cons_prefix_cons.mpr ⟨rfl, start⟩, way⟩

/-- Without `..` a path leads through places above its directory. -/
theorem LeadsThrough.isPrefix (through : LeadsThrough files root place)
    (down : ['.', '.'] ∉ Text.splitOn '/' root) (isBase : IsBase files root base) :
    place <+: base := by
  obtain ⟨front, ⟨behind, split⟩, way⟩ := through
  rcases isBase.directory with rfl | ⟨found, -⟩
  · have vacuous : ∀ segment ∈ front, Path.isVacuous segment = true := by
      intro segment member
      have inside : segment ∈ Text.splitOn '/' [] := split ▸ List.mem_append_left _ member
      rw [List.mem_singleton.mp inside]
      rfl
    have here := isBase.way
    rw [walk_of_vacuous vacuous way, walk_of_vacuous (by decide) here]
  · obtain ⟨segments, read, whole⟩ := locate_eq_ok_iff.mp found
    rw [eq_splitOn_of_segments? read, ← split, walk_append_eq_ok_iff] at whole
    obtain ⟨next, same, onward⟩ := whole
    rw [way] at same
    cases same
    refine isPrefix_of_walk (fun member => down ?_) onward
    rw [← split]
    exact List.mem_append_right _ member

/-- What the path of a directory leads through is there. -/
theorem LeadsThrough.isDirectory (through : LeadsThrough more root place)
    (grows : Grows files more) (directory : files.isDirectory root = true) :
    files.entry? place = some .directory := by
  obtain ⟨front, ⟨behind, split⟩, way⟩ := through
  obtain ⟨base, found, there⟩ := isDirectory_iff.mp directory
  obtain ⟨segments, read, whole⟩ := locate_eq_ok_iff.mp found
  rw [eq_splitOn_of_segments? read, ← split, walk_append_eq_ok_iff] at whole
  obtain ⟨next, onward, rest⟩ := whole
  have same := grows.walk onward
  rw [← grows.start, way] at same
  cases same
  cases behind with
  | nil =>
    cases rest
    exact there
  | cons segment behind =>
    obtain ⟨_, step, -⟩ := walk_cons_eq_ok_iff.mp rest
    exact (step_eq_ok_iff.mp step).1

end IconComponents.FileSystem
