/-
**Making a project destroys nothing.**

A project can be made in any directory, however it is spelled, and where a part of it is already.
Whether that succeeds or fails, what was there stays as it was, and nothing comes but directories on
the way, the directory of the template, and the two files with their texts. If it succeeds both paths
lead to something, and making the project once more changes nothing.

One spelling defeats the purpose: if the way to the directory goes through a directory that is not
there yet and has the name of a file of the project, as in `icongen.toml/..`, that directory is made
on the way, and then taken for the file.

* `Keeps` — what any part of the work does to the files;
* `Leaves.andThen`, `leaves_createMissing` — one part of the work after another, and one file;
* `IsNew.at_file` — what can have come where a file belongs;
* `createProject_completes` — the whole.
-/

import IconComponents.Proofs.FileSystem.Base
import IconComponents.Proofs.Project.Fresh

namespace IconComponents

open FileSystem

namespace Project

variable {files opened more : FileSystem} {base place : Location} {root : Text}
  {file : Text × Text} {entry : Entry}

/-! ### The files of a project -/

/-- The files of a project: their paths in its directory, and their texts when they are new. -/
def contents : List (Text × Text) := [(configName, starter.render), (templateName, builtinSource)]

theorem mem_contents : file ∈ contents ↔
    file = (configName, starter.render) ∨ file = (templateName, builtinSource) := by
  simp [contents]

/-- The directory of the template in the directory of a project. -/
def templateDirectory : Text := "templates".toList

/-- The names that the path of a file of a project consists of. -/
def segments (file : Text × Text) : List Text := Text.splitOn '/' file.1

/-- A file of the project, step by step. -/
theorem join_segments (root : Text) (member : file ∈ contents) :
    (segments file).foldl Path.join root = Path.join root file.1 := by
  rcases mem_contents.mp member with rfl | rfl
  · rfl
  · have pieces : segments (templateName, builtinSource) =
        [templateDirectory, "icon.tsx.hbs".toList] := by decide
    rw [pieces, List.foldl_cons, List.foldl_cons, List.foldl_nil,
      Path.join_join root (by decide) (by decide)]
    rfl

theorem isEntryName_segments (member : file ∈ contents) :
    segments file ≠ [] ∧ ∀ name ∈ segments file, Path.IsEntryName name := by
  revert file
  decide

/-- **Where the path of a file leads**: to its names in the directory. -/
theorem eq_of_locate (isBase : IsBase files root base) (member : file ∈ contents)
    (found : files.locate (Path.join root file.1) = .ok place) :
    files.walk base (segments file) = .ok place ∧ place = base ++ segments file ∧
      (files.entry? place).isSome = true := by
  obtain ⟨some, named⟩ := isEntryName_segments member
  rw [← join_segments root member] at found
  have inside := isBase.walk_of_locate some (fun name member => (named name member).1) found
  obtain ⟨same, there⟩ := walk_of_entryNames named inside
  exact ⟨inside, same, there some⟩

theorem eq_of_locate_directory (isBase : IsBase files root base)
    (found : files.locate (Path.join root templateDirectory) = .ok place) :
    place = base ++ [templateDirectory] :=
  (walk_of_entryNames (by decide)
    (isBase.walk_of_locate (List.cons_ne_nil _ []) (by decide) found)).1

/-- A file that is there later was there before if something was at its place. -/
theorem locate_of_present (tree : files.IsTree) (isBase : IsBase files root base)
    (later : IsBase more root base) (member : file ∈ contents)
    (found : more.locate (Path.join root file.1) = .ok place)
    (there : (files.entry? place).isSome = true) :
    files.locate (Path.join root file.1) = .ok place := by
  obtain ⟨some, named⟩ := isEntryName_segments member
  obtain ⟨inside, -, -⟩ := eq_of_locate later member found
  obtain ⟨pieces, read, -⟩ := locate_eq_ok_iff.mp found
  rw [← join_segments root member] at read ⊢
  exact isBase.locate_of_walk some (fun name member => (named name member).1)
    (Option.isSome_iff_exists.mpr ⟨pieces, read⟩) (tree.walk_of_present named there inside)

/-! ### What comes -/

/-- What can come when a project is made: a directory on the way to it, the directory of the
template, and a file with its text. -/
def IsNew (root : Text) (more : FileSystem) (place : Location) (entry : Entry) : Prop :=
  (entry = .directory ∧ (more.LeadsThrough root place ∨
    more.locate (Path.join root templateDirectory) = .ok place)) ∨
  ∃ file ∈ contents, more.locate (Path.join root file.1) = .ok place ∧
    entry = .file (.text file.2)

/-- What is new stays new while files are added. -/
theorem IsNew.of_grows (new : IsNew root opened place entry) (grows : Grows opened more) :
    IsNew root more place entry :=
  new.imp
    (And.imp_right (Or.imp (LeadsThrough.of_grows · grows) (grows.locate ·)))
    fun ⟨file, member, found, same⟩ => ⟨file, member, grows.locate found, same⟩

/-- **Where a file belongs** nothing comes but its text, or a directory on the way. -/
theorem IsNew.at_file (new : IsNew root more place entry) (isBase : IsBase more root base)
    (member : file ∈ contents) (found : more.locate (Path.join root file.1) = .ok place) :
    entry = .file (.text file.2) ∨ entry = .directory ∧ more.LeadsThrough root place := by
  obtain ⟨-, here, -⟩ := eq_of_locate isBase member found
  rcases new with ⟨directory, through | inside⟩ | ⟨other, member', found', rfl⟩
  · exact Or.inr ⟨directory, through⟩
  · have same := here.symm.trans (eq_of_locate_directory isBase inside)
    have aside : ∀ file ∈ contents, segments file ≠ [templateDirectory] := by decide
    exact absurd (List.append_cancel_left same) (aside file member)
  · obtain ⟨-, there, -⟩ := eq_of_locate isBase member' found'
    have apart : segments (configName, starter.render) ≠ segments (templateName, builtinSource) := by
      decide
    have same := List.append_cancel_left (here.symm.trans there)
    rcases mem_contents.mp member with rfl | rfl <;> rcases mem_contents.mp member' with rfl | rfl
    · exact Or.inl rfl
    · exact absurd same apart
    · exact absurd same.symm apart
    · exact Or.inl rfl

/-- Nothing goes and nothing changes, and only what belongs to a project comes. -/
structure Keeps (root : Text) (files more : FileSystem) : Prop where
  tree : more.IsTree
  current : more.current = files.current
  kept : ∀ place entry, files.entry? place = some entry → more.entry? place = some entry
  new : ∀ place entry, files.entry? place = none → more.entry? place = some entry →
    IsNew root more place entry

theorem Keeps.refl (tree : files.IsTree) : Keeps root files files :=
  ⟨tree, rfl, fun _ _ there => there, fun _ _ absent there => by rw [absent] at there; cases there⟩

theorem Keeps.grows (keeps : Keeps root files more) : Grows files more := by
  refine ⟨keeps.current, fun place there => ?_, fun place there => keeps.kept _ _ there⟩
  obtain ⟨entry, found⟩ := Option.isSome_iff_exists.mp there
  rw [keeps.kept place entry found]
  rfl

/-- What is kept by two steps is kept. -/
theorem Keeps.trans (first : Keeps root files opened) (second : Keeps root opened more) :
    Keeps root files more := by
  refine ⟨second.tree, second.current.trans first.current,
    fun place entry there => second.kept place entry (first.kept place entry there),
    fun place entry absent there => ?_⟩
  cases between : opened.entry? place with
  | none => exact second.new place entry between there
  | some old =>
    rw [second.kept place old between] at there
    cases there
    exact (first.new place _ absent between).of_grows second.grows

theorem Keeps.pathExists {path : Text} (keeps : Keeps root files more)
    (there : files.pathExists path = true) : more.pathExists path = true := by
  obtain ⟨place, led, present⟩ := pathExists_iff.mp there
  exact pathExists_iff.mpr ⟨place, keeps.grows.locate led, keeps.grows.present place present⟩

/-- What a part of the work leaves behind: it keeps the files, and if it succeeds, what is asked for
holds of them. -/
structure Leaves (root : Text) (files : FileSystem) (run : Outcome ProjectError Unit)
    (asked : FileSystem → Prop) : Prop where
  keeps : Keeps root files run.files
  done : run.result = .ok () → asked run.files

theorem Leaves.of_failed {actions : List Console.Action} {error : ProjectError}
    {asked : FileSystem → Prop} (keeps : Keeps root files more) :
    Leaves root files ⟨actions, more, .error error⟩ asked :=
  ⟨keeps, fun succeeded => nomatch succeeded⟩

theorem Leaves.of_kept {run : Outcome ProjectError Unit} {asked : FileSystem → Prop}
    (keeps : Keeps root files opened) (later : Leaves root opened run asked) :
    Leaves root files run asked :=
  ⟨keeps.trans later.keeps, later.done⟩

/-- **One part of the work after another.** -/
theorem Leaves.andThen {run : Outcome ProjectError Unit} {asked later : FileSystem → Prop}
    {next : FileSystem → Unit → Outcome ProjectError Unit} (first : Leaves root files run asked)
    (second : asked run.files → Keeps root files run.files →
      Leaves root run.files (next run.files ()) later) :
    Leaves root files (run.andThen next) later := by
  cases result : run.result with
  | error error =>
    rw [Outcome.andThen_of_error result]
    exact .of_failed first.keeps
  | ok value =>
    have after := second (first.done result) first.keeps
    rw [Outcome.andThen_of_ok result]
    exact ⟨first.keeps.trans after.keeps, after.done⟩

/-! ### One part of the work -/

/-- **The directory** of a project. -/
theorem keeps_makeDirectories (tree : files.IsTree) (root : Text) :
    Keeps root files (files.makeDirectories root).2 := by
  have opens := makeDirectories_opens files root
  refine ⟨opens.adds.isTree tree, opens.adds.current, opens.adds.kept,
    fun place entry absent there => ?_⟩
  rcases opens.entry place with same | ⟨-, directory, path, member, led⟩
  · rw [same, absent] at there
    cases there
  · rw [directory] at there
    cases there
    exact Or.inl ⟨rfl, Or.inl (leadsThrough_of_mem_parents member led)⟩

/-- **The directory of a file**: it is there, or it is the one of the template. -/
theorem keeps_makeDirectories_parent (tree : files.IsTree) (isBase : IsBase files root base)
    (member : file ∈ contents) :
    ∃ above, Path.parent? (Path.join root file.1) = some above ∧
      Keeps root files (files.makeDirectories above).2 := by
  rcases mem_contents.mp member with rfl | rfl
  · obtain ⟨above, parent, there⟩ := isBase.parent?_opened
      (show Path.IsEntryName configName by decide)
    refine ⟨above, parent, ?_⟩
    rw [makeDirectories_eq_self there]
    exact .refl tree
  · refine ⟨Path.join root templateDirectory, ?_, ?_⟩
    · rw [← join_segments root member]
      exact Path.parent?_join_join root (show Path.IsEntryName templateDirectory by decide)
        (by decide)
    · generalize making : files.makeDirectories (Path.join root templateDirectory) = outcome
      obtain ⟨made, opened⟩ := outcome
      rcases isBase.makeDirectories_join (by decide) making with rfl | ⟨absent, above, rfl, led⟩
      · exact .refl tree
      · have adds := adds_put_directory absent (by rwa [List.dropLast_concat])
        refine ⟨adds.isTree tree, adds.current, adds.kept, fun place entry absent' there => ?_⟩
        rw [entry?_put (by simp)] at there
        split at there
        · next here =>
          cases there
          exact Or.inl ⟨rfl, Or.inr (here ▸ led)⟩
        · rw [absent'] at there
          cases there

/-- **Writing a file** that is not there. -/
theorem keeps_write? (tree : files.IsTree) (member : file ∈ contents)
    (missing : ∀ place content, files.locate (Path.join root file.1) = .ok place →
      files.entry? place ≠ some (.file content))
    (written : files.write? (Path.join root file.1) (.text file.2) = some more) :
    Keeps root files more ∧ more.pathExists (Path.join root file.1) = true := by
  have tree' := write?_isTree tree written
  obtain ⟨place, below, rfl, -, -, led⟩ := write?_places written
  have absent : files.entry? place = none := by
    obtain ⟨other, below', same, there⟩ := write?_eq_some written
    rcases there with ⟨found, old, isFile⟩ | ⟨-, absent⟩
    · exact absurd isFile (missing other old found)
    · have here : FileSystem.entry? (files.put place (.file (.text file.2))) other =
          some (.file (.text file.2)) := by rw [same, entry?_put below', if_pos rfl]
      rw [entry?_put below] at here
      split at here
      · next equal => exact equal ▸ absent
      · rw [absent] at here
        cases here
  refine ⟨⟨tree', current_put _ _, fun other entry there => ?_, fun other entry absent' there => ?_⟩,
    pathExists_iff.mpr ⟨place, led, ?_⟩⟩
  · rw [entry?_put below, if_neg]
    · exact there
    · rintro rfl
      rw [absent] at there
      cases there
  · rw [entry?_put below] at there
    split at there
    · next here =>
      cases there
      exact Or.inr ⟨file, member, here ▸ led, rfl⟩
    · rw [absent'] at there
      cases there
  · rw [entry?_put below, if_pos rfl]
    rfl

/-- **One file**, whether or not it is there, and whether or not it can be written. -/
theorem leaves_createMissing (tree : files.IsTree) (isBase : IsBase files root base)
    (member : file ∈ contents) :
    Leaves root files (createMissing files (Path.join root file.1) file.2)
      fun more => more.pathExists (Path.join root file.1) = true := by
  unfold createMissing
  split
  · next there => exact ⟨.refl tree, fun _ => there⟩
  · next absent =>
    obtain ⟨above, parent, keeps⟩ := keeps_makeDirectories_parent tree isBase member
    rw [parent]
    simp only
    split
    · next opened making =>
      rw [making] at keeps
      exact .of_failed keeps
    · next opened making =>
      have adds := makeDirectories_adds files above
      rw [making] at keeps adds
      have missing : ∀ place content, opened.locate (Path.join root file.1) = .ok place →
          opened.entry? place ≠ some (.file content) := by
        intro place content found isFile
        have there : (files.entry? place).isSome = true :=
          Option.isSome_iff_exists.mpr ⟨_, adds.noFile place content isFile⟩
        have found' := locate_of_present tree isBase (isBase.of_grows keeps.grows) member found there
        exact absent (pathExists_iff.mpr ⟨place, found', there⟩)
      unfold create
      split
      · next more written =>
        obtain ⟨writes, exists'⟩ := keeps_write? keeps.tree member missing written
        exact ⟨keeps.trans writes, fun _ => exists'⟩
      · exact .of_failed keeps

/-! ### The whole -/

/-- A project is there: both of its paths lead to something in its directory. -/
def IsThere (root : Text) (files : FileSystem) : Prop :=
  (∃ base, IsBase files root base) ∧
    ∀ file ∈ contents, files.pathExists (Path.join root file.1) = true

/-- **The whole work**, whether it succeeds or fails. -/
theorem leaves_createProject (tree : files.IsTree) (root : Text) :
    Leaves root files (createProject files root) (IsThere root) := by
  have start := keeps_makeDirectories tree root
  unfold createProject
  split
  · next opened making =>
    rw [making] at start
    exact .of_failed start
  · next opened making =>
    rw [making] at start
    obtain ⟨base, isBase⟩ : ∃ base, IsBase opened root base := by
      by_cases empty : root = []
      · exact exists_isBase (Or.inl empty)
      · exact exists_isBase (Or.inr (isDirectory_makeDirectories empty making))
    have first := leaves_createMissing start.tree isBase (mem_contents.mpr (Or.inl rfl))
    refine .of_kept start (first.andThen fun config keeps => ?_)
    have isBase := isBase.of_grows keeps.grows
    have second := leaves_createMissing keeps.tree isBase (mem_contents.mpr (Or.inr rfl))
    refine second.andThen fun template keeps' => ⟨.refl keeps'.tree, fun _ => ?_⟩
    refine ⟨⟨base, isBase.of_grows keeps'.grows⟩, fun file member => ?_⟩
    rcases mem_contents.mp member with rfl | rfl
    · exact keeps'.pathExists config
    · exact template

/-- What is said when a project is there already. -/
def skipped (root : Text) : List Console.Action :=
  contents.map (fun file => say (Path.join root file.1 ++ " exists, skipped".toList)) ++
    [say ("ready, run `icongen generate` in ".toList ++ root)]

/-- A file that is there is not created. -/
theorem createMissing_of_there {path : Text} (there : files.pathExists path = true)
    (text : Text) : createMissing files path text =
      ⟨[say (path ++ " exists, skipped".toList)], files, .ok ()⟩ := by
  rw [createMissing, if_pos there]
  rfl

/-- **A project that is there** is left as it is. -/
theorem createProject_of_isThere (isThere : IsThere root files) :
    createProject files root = ⟨skipped root, files, .ok ()⟩ := by
  obtain ⟨⟨base, isBase⟩, there⟩ := isThere
  have config := there (configName, starter.render) (mem_contents.mpr (Or.inl rfl))
  have template := there (templateName, builtinSource) (mem_contents.mpr (Or.inr rfl))
  rw [createProject, makeDirectories_eq_self isBase.opened]
  simp only
  rw [createMissing_of_there config, Outcome.andThen_of_ok rfl, createMissing_of_there template,
    Outcome.andThen_of_ok rfl]
  rfl

/-- The work of making a project in a directory, wherever that is, and whatever is there. Nothing is
destroyed, what could be read is read as before, and nothing is made but what is new in a project.
If it succeeds, both files are there: as before, or with their texts, or as directories on the way.
A path that led nowhere leads to a file with its text, if the directory was there or its path does
not go back (`missing`). Made once more, it is a project that is there. -/
structure Completes (files : FileSystem) (root : Text) (run : Outcome ProjectError Unit) :
    Prop where
  kept : ∀ place entry, files.entry? place = some entry → run.files.entry? place = some entry
  read : ∀ path content, files.read? path = some content → run.files.read? path = some content
  new : ∀ place entry, files.entry? place = none → run.files.entry? place = some entry →
    IsNew root run.files place entry
  there : run.result = .ok () → ∀ file ∈ contents, ∃ place entry,
    run.files.locate (Path.join root file.1) = .ok place ∧ run.files.entry? place = some entry ∧
      (files.entry? place = some entry ∨ files.entry? place = none ∧
        (entry = .file (.text file.2) ∨
          entry = .directory ∧ run.files.LeadsThrough root place))
  missing : run.result = .ok () →
    files.isDirectory root = true ∨ ['.', '.'] ∉ Text.splitOn '/' root →
    ∀ file ∈ contents, files.pathExists (Path.join root file.1) = false →
      run.files.read? (Path.join root file.1) = some (.text file.2)
  again : run.result = .ok () → createProject run.files root = ⟨skipped root, run.files, .ok ()⟩

/-- What could be read still can. -/
theorem Keeps.read? {path : Text} {content : Content} (keeps : Keeps root files more)
    (read : files.read? path = some content) : more.read? path = some content := by
  rw [FileSystem.read?, find?] at read
  split at read
  · next found =>
    split at found
    · next place led =>
      cases read
      rw [FileSystem.read?, find?, keeps.grows.locate led]
      simp only
      rw [keeps.kept _ _ found]
    · cases found
  · cases read

/-- **Nothing was at the place of a file** whose path led nowhere. -/
theorem absent_of_missing (tree : files.IsTree) (grows : Grows files more)
    (plain : files.isDirectory root = true ∨ ['.', '.'] ∉ Text.splitOn '/' root)
    (isBase : IsBase more root base) (member : file ∈ contents)
    (missing : files.pathExists (Path.join root file.1) = false)
    (found : more.locate (Path.join root file.1) = .ok place) : files.entry? place = none := by
  rw [← Option.not_isSome_iff_eq_none]
  intro there
  obtain ⟨-, below, -⟩ := eq_of_locate isBase member found
  have before : IsBase files root base := by
    rcases plain with directory | down
    · obtain ⟨other, isBase'⟩ := exists_isBase (Or.inr directory)
      rwa [isBase.unique (isBase'.of_grows grows)]
    · refine tree.isBase_of_down grows down isBase (tree.above ?_ (tree _ there))
      obtain ⟨nonempty, -⟩ := isEntryName_segments member
      rw [below, List.dropLast_append_of_ne_nil nonempty]
      exact List.prefix_append _ _
  have found' := locate_of_present tree before isBase member found there
  rw [pathExists_iff.mpr ⟨place, found', there⟩] at missing
  cases missing

/-- The place of a file is on the way to its directory only if that goes back. -/
theorem not_leadsThrough (grows : Grows files more)
    (plain : files.isDirectory root = true ∨ ['.', '.'] ∉ Text.splitOn '/' root)
    (isBase : IsBase more root base) (member : file ∈ contents)
    (found : more.locate (Path.join root file.1) = .ok place) (absent : files.entry? place = none) :
    ¬ more.LeadsThrough root place := by
  intro through
  rcases plain with directory | down
  · rw [through.isDirectory grows directory] at absent
    cases absent
  · obtain ⟨-, below, -⟩ := eq_of_locate isBase member found
    rw [below] at through
    exact not_prefix_of_below (isEntryName_segments member).1 (through.isPrefix down isBase)

/-- **Making a project destroys nothing**, in every tree of files and for every directory. -/
theorem createProject_completes (files : FileTree) (root : Text) :
    Completes files root (createProject files root) := by
  obtain ⟨keeps, done⟩ := leaves_createProject files.isTree root
  have there : (createProject files root).result = .ok () → ∃ base,
      IsBase (createProject files root).files root base ∧ ∀ file ∈ contents, ∃ place entry,
        (createProject files root).files.locate (Path.join root file.1) = .ok place ∧
        (createProject files root).files.entry? place = some entry ∧
        (files.entry? place = some entry ∨ files.entry? place = none ∧
          (entry = .file (.text file.2) ∨
            entry = .directory ∧ (createProject files root).files.LeadsThrough root place)) := by
    intro succeeded
    obtain ⟨⟨base, isBase⟩, present⟩ := done succeeded
    refine ⟨base, isBase, fun file member => ?_⟩
    obtain ⟨place, found, some⟩ := pathExists_iff.mp (present file member)
    obtain ⟨entry, there⟩ := Option.isSome_iff_exists.mp some
    refine ⟨place, entry, found, there, ?_⟩
    cases before : files.entry? place with
    | none => exact Or.inr ⟨rfl, (keeps.new _ _ before there).at_file isBase member found⟩
    | some old =>
      rw [keeps.kept _ _ before] at there
      exact Or.inl there
  refine ⟨keeps.kept, fun _ _ => keeps.read?, keeps.new, fun succeeded => ?_,
    fun succeeded plain file member absent => ?_, fun succeeded => ?_⟩
  · obtain ⟨-, -, present⟩ := there succeeded
    exact present
  · obtain ⟨base, isBase, present⟩ := there succeeded
    obtain ⟨place, entry, found, inside, -⟩ := present file member
    have nothing := absent_of_missing files.isTree keeps.grows plain isBase member absent found
    have aside := not_leadsThrough keeps.grows plain isBase member found nothing
    obtain rfl := ((keeps.new _ _ nothing inside).at_file isBase member found).resolve_right
      fun onWay => aside onWay.2
    rw [FileSystem.read?, find?, found]
    simp only
    rw [inside]
  · exact createProject_of_isThere (done succeeded)

/-- A directory with a configuration file that is not the one of a new project. -/
def started : FileTree where
  entries := [(["work".toList], .directory),
    (["work".toList, configName], .file (.text "entry = \"mine/*.svg\"".toList))]
  current := ["work".toList]
  isTree := isTree_of_entries (by decide +kernel)

/-- Its configuration file stays, and the template comes. -/
theorem createProject_started :
    (createProject started "/work".toList).result = .ok () ∧
      (createProject started "/work".toList).files.read? "/work/icongen.toml".toList =
        some (.text "entry = \"mine/*.svg\"".toList) ∧
      (createProject started "/work".toList).files.read? "/work/templates/icon.tsx.hbs".toList =
        some (.text builtinSource) := by
  have done : (createProject started "/work".toList).result = .ok () := by decide +kernel
  have completes := createProject_completes started "/work".toList
  refine ⟨done, completes.read _ _ (by decide +kernel), ?_⟩
  exact completes.missing done (Or.inl (by decide +kernel)) (templateName, builtinSource)
    (mem_contents.mpr (Or.inr rfl)) (by decide +kernel)

/-- The directory is there once it is made on the way, and then it is taken for the file. -/
theorem createProject_taken_for_file :
    let root := "icongen.toml/..".toList
    let run := createProject bare root
    run.result = .ok () ∧ bare.pathExists (Path.join root configName) = false ∧
      bare.entry? ["work".toList, configName] = none ∧
      run.files.locate (Path.join root configName) = .ok ["work".toList, configName] ∧
      run.files.entry? ["work".toList, configName] = some .directory := by
  decide +kernel

end Project

end IconComponents
