/-
**Where new entries are.**

What comes when a file is written or directories are made is where a path leads afterwards:

* `write?_places` — the path of a written file leads to it;
* `IsTree.locate_join_inj` — different names in one directory lead to different files;
* `Opens` — only directories come, each where one of some paths leads;
* `makeDirectories_opens` — making a directory opens it and those that its path goes through.
-/

import IconComponents.Proofs.FileSystem.Tree

namespace IconComponents.FileSystem

variable {files between more : FileSystem} {location : Location} {path : Text} {content : Content}
  {paths : List Text}

/-! ### Files -/

/-- Segments that lead to a name lead to its directory first. -/
theorem place_eq_ok {start parent : Location} {segments : List Text} {name : Text}
    (placed : files.place start segments = .ok (parent, name)) (named : isName name = true) :
    ∃ front, segments = front ++ [name] ∧ files.walk start front = .ok parent ∧
      files.entry? parent = some .directory := by
  unfold place at placed
  split at placed
  · cases placed
  · next above way =>
    split at placed
    · next directory =>
      obtain ⟨rfl, rfl⟩ := Prod.mk.inj (Except.ok.inj placed)
      cases tail : segments.getLast? with
      | none =>
        rw [tail] at named
        exact absurd named (by decide)
      | some name =>
        obtain ⟨front, rfl⟩ := List.getLast?_eq_some_iff.mp tail
        rw [List.dropLast_concat] at way
        exact ⟨front, rfl, way, directory⟩
    · cases placed

/-- A file that is not there is written under the last name of its path. -/
theorem write?_of_missing {error : WalkError} (missing : files.locate path = .error error)
    (written : files.write? path content = some more) :
    ∃ front name parent, segments? path = some (front ++ [name]) ∧
      files.walk (files.start path) front = .ok parent ∧
      files.entry? parent = some .directory ∧ isName name = true ∧
      files.entry? (parent ++ [name]) = none ∧
      more = files.put (parent ++ [name]) (.file content) := by
  unfold write? at written
  split at written
  · next found =>
    rw [missing] at found
    cases found
  · split at written
    · next parent name placed =>
      split at written
      · next free =>
        obtain ⟨named, nothing⟩ := Bool.and_eq_true_iff.mp free
        obtain ⟨segments, read, placed⟩ := Option.map_eq_some_iff.mp placed
        obtain ⟨front, rfl, way, directory⟩ := place_eq_ok placed named
        exact ⟨front, name, parent, read, way, directory, named,
          Option.isNone_iff_eq_none.mp nothing, (Option.some.inj written).symm⟩
      · cases written
    · cases written

/-- **The path of a written file leads to it**, and a new file comes into a directory. -/
theorem write?_places (written : files.write? path content = some more) :
    ∃ location, location ≠ [] ∧ more = files.put location (.file content) ∧
      files.entry? location ≠ some .directory ∧
      (files.entry? location = none → files.entry? location.dropLast = some .directory) ∧
      more.locate path = .ok location := by
  cases found : files.locate path with
  | ok location =>
    obtain ⟨place, below, rfl, led⟩ := write?_eq_some written
    rcases led with ⟨led, old, there⟩ | ⟨⟨error, missing⟩, -⟩
    · have noDirectory : files.entry? place ≠ some .directory := by
        rw [there]
        exact fun same => by cases same
      refine ⟨place, below, rfl, noDirectory, fun absent => ?_,
        (grows_put_file below noDirectory content).locate led⟩
      rw [there] at absent
      cases absent
    · rw [found] at missing
      cases missing
  | error error =>
    obtain ⟨front, name, parent, read, way, directory, named, absent, rfl⟩ :=
      write?_of_missing found written
    have noDirectory : files.entry? (parent ++ [name]) ≠ some .directory := by
      rw [absent]
      exact fun same => by cases same
    have grows := grows_put_file (by simp) noDirectory content
    refine ⟨parent ++ [name], by simp, rfl, noDirectory, fun _ => ?_,
      locate_eq_ok_iff.mpr ⟨_, read, ?_⟩⟩
    · rw [List.dropLast_concat]
      exact directory
    · rw [grows.start]
      refine walk_append_eq_ok_iff.mpr ⟨parent, grows.walk way, walk_cons_eq_ok_iff.mpr
        ⟨parent ++ [name], step_eq_ok_iff.mpr ⟨grows.directory _ directory,
          (target_of_isName named).symm, fun _ _ => ⟨named, ?_⟩⟩, rfl⟩⟩
      rw [entry?_put (by simp), if_pos rfl]
      rfl

/-- Writing a file keeps a tree. -/
theorem write?_isTree (tree : files.IsTree) (written : files.write? path content = some more) :
    more.IsTree := by
  obtain ⟨location, below, rfl, noDirectory, above, -⟩ := write?_places written
  have grows := grows_put_file below noDirectory content
  intro other there
  rw [entry?_put below] at there
  split at there
  · next same =>
    subst same
    refine grows.directory _ ?_
    cases before : files.entry? other with
    | none => exact above before
    | some entry => exact tree other (Option.isSome_iff_exists.mpr ⟨entry, before⟩)
  · exact grows.directory _ (tree other there)

theorem lookup_filter_ne (entries : List (Location × Entry)) (location other : Location) :
    (entries.filter fun entry => entry.1 ≠ location).lookup other =
      if other = location then none else entries.lookup other := by
  induction entries with
  | nil => exact (ite_self _).symm
  | cons entry entries ih =>
    obtain ⟨place, entry⟩ := entry
    rw [List.filter_cons]
    by_cases kept : place = location
    · subst kept
      rw [if_neg (by simp), ih, List.lookup_cons]
      split
      · rfl
      · next other => rw [beq_eq_false_iff_ne.mpr other]
    · rw [if_pos (by simpa using kept), List.lookup_cons, List.lookup_cons, ih]
      cases here : other == place with
      | false => rfl
      | true => exact (if_neg (eq_of_beq here ▸ kept)).symm

/-- **Removing a file** keeps a tree: nothing lies in a file. -/
theorem remove?_isTree (tree : files.IsTree) (removed : files.remove? path = some more) :
    more.IsTree := by
  unfold remove? at removed
  split at removed
  · next place found =>
    split at removed
    · next content file =>
      cases removed
      intro other there
      by_cases root : other = []
      · subst root
        rfl
      · rw [entry?_below root, lookup_filter_ne] at there
        split at there
        · cases there
        · rw [← entry?_below root] at there
          have above := tree other there
          by_cases top : other.dropLast = []
          · rw [top]
            rfl
          · rw [entry?_below top] at above ⊢
            rw [lookup_filter_ne, if_neg, above]
            rintro rfl
            rw [entry?_below top, above] at file
            cases file
    · cases removed
  · cases removed

theorem isAbsolute_of_free {name : Text} (free : '/' ∉ name) : Path.isAbsolute name = false := by
  rw [← Bool.not_eq_true, isAbsolute_eq_true_iff]
  rintro ⟨rest, rfl⟩
  exact free List.mem_cons_self

/-- Names behind one base are looked up in one directory; without a base it is the working
directory. -/
theorem exists_step_of_join (files : FileSystem) (base : Text) :
    ∃ directory, ∀ {name : Text} {location : Location}, '/' ∉ name →
      files.locate (Path.join base name) = .ok location →
        files.step directory name = .ok location := by
  by_cases empty : base = []
  · subst empty
    refine ⟨files.current, fun {name location} free found => ?_⟩
    have relative := isAbsolute_of_free free
    have joined : Path.join [] name = name := by simp [Path.join, relative]
    rw [joined] at found
    obtain ⟨segments, read, way⟩ := locate_eq_ok_iff.mp found
    rw [eq_splitOn_of_segments? read, Text.splitOn_of_free free, start, relative,
      if_neg Bool.false_ne_true] at way
    obtain ⟨next, step, rest⟩ := walk_cons_eq_ok_iff.mp way
    cases rest
    exact step
  · cases led : files.locate base with
    | error error =>
      refine ⟨[], fun {name location} free found => ?_⟩
      obtain ⟨directory, ahead, -⟩ := locate_join empty free found
      rw [led] at ahead
      cases ahead
    | ok directory =>
      refine ⟨directory, fun {name location} free found => ?_⟩
      obtain ⟨place, ahead, step⟩ := locate_join empty free found
      rw [led] at ahead
      cases ahead
      exact step

/-- **Different names in one directory lead to different files.** -/
theorem IsTree.locate_join_inj {base name other : Text} (tree : files.IsTree) (free : '/' ∉ name)
    (free' : '/' ∉ other) (found : files.locate (Path.join base name) = .ok location)
    (found' : files.locate (Path.join base other) = .ok location)
    (there : files.entry? location = some (.file content)) : name = other := by
  obtain ⟨directory, step⟩ := exists_step_of_join files base
  obtain ⟨above, first, -⟩ := step_eq_ok_iff.mp (step free found)
  obtain ⟨-, second, -⟩ := step_eq_ok_iff.mp (step free' found')
  have named := tree.target_of_file above (first ▸ there)
  have named' := tree.target_of_file above (second ▸ there)
  rw [← first] at named
  rw [← second, named] at named'
  exact (List.cons.inj (List.append_cancel_left named')).1

/-! ### Directories -/

/-- Only directories come, each where one of some paths leads. -/
structure Opens (paths : List Text) (files more : FileSystem) : Prop where
  adds : Adds files more
  entry : ∀ location, more.entry? location = files.entry? location ∨
    (files.entry? location = none ∧ more.entry? location = some .directory ∧
      ∃ path ∈ paths, more.locate path = .ok location)

theorem Opens.refl (paths : List Text) (files : FileSystem) : Opens paths files files :=
  ⟨Adds.refl files, fun _ => Or.inl rfl⟩

theorem Opens.trans (first : Opens paths files between) (second : Opens paths between more) :
    Opens paths files more := by
  refine ⟨first.adds.trans second.adds, fun location => ?_⟩
  rcases first.entry location with before | ⟨absent, there, path, member, led⟩
  · rcases second.entry location with after | ⟨absent, new⟩
    · exact Or.inl (after.trans before)
    · exact Or.inr ⟨before ▸ absent, new⟩
  · exact Or.inr ⟨absent, second.adds.kept _ _ there, path, member, second.adds.grows.locate led⟩

theorem Opens.mono {others : List Text} (opens : Opens paths files more) (among : paths ⊆ others) :
    Opens others files more := by
  refine ⟨opens.adds, fun location => (opens.entry location).imp_right ?_⟩
  rintro ⟨absent, new, path, member, led⟩
  exact ⟨absent, new, path, among member, led⟩

/-- Ensuring a directory opens nothing but its path. -/
theorem ensure_opens (files : FileSystem) (path : Text) :
    Opens [path] files (files.ensure path).2 := by
  refine ⟨ensure_adds files path, fun location => ?_⟩
  unfold ensure
  split
  · next more made =>
    obtain ⟨place, below, absent, -, rfl, led⟩ := makeDirectory_eq_made made
    rw [entry?_put below]
    split
    · next same =>
      subst same
      exact Or.inr ⟨absent, rfl, path, List.mem_singleton_self path, led⟩
    · exact Or.inl rfl
  · exact Or.inl rfl

/-- Making a directory opens nothing but its path and the given parents. -/
theorem makeBelow_opens (files : FileSystem) (path : Text) (parents : List Text) :
    Opens (path :: parents) files (files.makeBelow path parents).2 :=
  makeBelow_induction (Opens.refl _) Opens.trans
    (fun files above member => (ensure_opens files above).mono (by simpa using member)) files

/-- **Making a directory opens it and those above it**, and does nothing else. -/
theorem makeDirectories_opens (files : FileSystem) (path : Text) :
    Opens (path :: Path.parents path) files (files.makeDirectories path).2 :=
  makeBelow_opens files path (Path.parents path)

end IconComponents.FileSystem
