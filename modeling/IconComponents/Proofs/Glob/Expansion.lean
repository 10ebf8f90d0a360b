/-
**Which files a pattern finds.**

The components of a pattern are followed through the directories: one without wildcards is looked
up, one with wildcards is compared with the names that are there, and `**` with the names at any
depth. All three come to the same: a file is found if the names that lead to it fit the components.

* `FitsPath` — the names that fit the components of a pattern;
* `finds_literal`, `finds_wildcards`, `finds_directories` — one component of each kind;
* `finds` — all components;
* `parse_eq_ok_iff` — the components of a text;
* `mem_expand_iff` — the files that a pattern finds.
-/

import Mathlib.Data.List.Forall2
import IconComponents.Proofs.FileSystem.Below
import IconComponents.Proofs.Glob.Matching

namespace IconComponents

open FileSystem

/-- **The names that fit the components of a pattern.** An empty component asks for a directory; `.`
and `..` fit only what is written with a dot at its start; `**` fits any number of names, and what
stands behind it has to fit the name that follows them. -/
inductive FitsPath : List Pattern → List Text → Prop
  | done : FitsPath [] []
  | empty {components : List Pattern} {names : List Text} (some : names ≠ [])
      (fits : FitsPath components names) : FitsPath ([] :: components) names
  | name {component : Pattern} {components : List Pattern} {name : Text} {names : List Text}
      (single : component.isDirectories = false) (segment : Path.IsSegment name)
      (own : component.Fits name) (dots : Path.IsDots name → component.head? = some (.char '.'))
      (fits : FitsPath components names) : FitsPath (component :: components) (name :: names)
  | directories {component next : Pattern} {components : List Pattern} {passed : List Text}
      {name : Text} {names : List Text} (run : component.isDirectories = true)
      (entries : ∀ other ∈ passed ++ [name], Path.IsEntryName other) (own : next.Fits name)
      (fits : FitsPath components names) :
      FitsPath (component :: next :: components) (passed ++ name :: names)

variable {files : FileSystem} {directory : Bool} {component next : Pattern}
  {components : List Pattern} {path file name : Text} {names : List Text}

/-- Names that fit a pattern are segments of paths. -/
theorem FitsPath.segments (fits : FitsPath components names) :
    ∀ name ∈ names, Path.IsSegment name := by
  induction fits with
  | done => exact fun name member => by cases member
  | empty _ _ ih => exact ih
  | name _ segment _ _ _ ih => exact List.forall_mem_cons.mpr ⟨segment, ih⟩
  | directories _ entries _ _ ih =>
    intro other member
    rw [List.append_cons] at member
    exact (List.mem_append.mp member).elim (fun passed => (entries other passed).1) (ih other)

theorem FitsPath.free (fits : FitsPath components names) : ∀ name ∈ names, '/' ∉ name :=
  fun name member => (fits.segments name member).2

/-! ### One component -/

namespace FileSystem

/-- Components find the files whose names fit them, below every path. -/
def Finds (files : FileSystem) (directory : Bool) (components : List Pattern) : Prop :=
  ∀ path file : Text, Path.isAbsolute path = true → files.isFile file = true →
    (file ∈ files.expandBelow directory components path ↔
      directory = false ∧ ∃ names, FitsPath components names ∧ file = names.foldl Path.join path)

theorem finds_nil : files.Finds directory [] := by
  intro path file _ isFile
  rw [expandBelow]
  constructor
  · intro member
    split at member
    · cases member
    · next passes =>
      obtain rfl := List.mem_singleton.mp member
      refine ⟨?_, [], .done, rfl⟩
      have noDirectory : files.isDirectory file = false :=
        Bool.eq_false_iff.mpr fun directory => not_isFile_of_isDirectory directory isFile
      simpa [noDirectory] using passes
  · rintro ⟨rfl, names, fits, rfl⟩
    cases fits
    exact List.mem_singleton.mpr rfl

/-! ### A component that is written out -/

/-- A name that is written out is there. -/
def IsPresent (files : FileSystem) (path name : Text) : Prop :=
  (Path.IsDots name → files.isDirectory path = true) ∧
    (¬ Path.IsDots name → files.pathExists (Path.join path name) = true)

theorem isPresent_of_foldl_join (absolute : Path.isAbsolute path = true)
    (free : ∀ other ∈ name :: names, '/' ∉ other)
    (isFile : files.isFile ((name :: names).foldl Path.join path) = true) :
    files.IsPresent path name := by
  obtain ⟨place, content, found, -⟩ := isFile_iff.mp isFile
  refine ⟨fun _ => isDirectory_of_foldl_join absolute (List.cons_ne_nil _ _) free found,
    fun noDots => ?_⟩
  obtain ⟨first, others⟩ := List.forall_mem_cons.mp free
  obtain ⟨there, leads, -⟩ := locate_foldl_join (Path.isAbsolute_join absolute name) others found
  obtain ⟨location, -, step⟩ := locate_join (Path.ne_nil_of_isAbsolute absolute) first leads
  obtain ⟨isDirectory, rfl, named⟩ := step_eq_ok_iff.mp step
  refine pathExists_iff.mpr ⟨_, leads, ?_⟩
  cases vacuous : Path.isVacuous name with
  | true => rw [target, if_pos vacuous, isDirectory]; rfl
  | false => exact (named vacuous fun up => noDots (Or.inr up)).2

/-- Files behind a component without wildcards. -/
theorem mem_expandBelow_literal (absolute : Path.isAbsolute path = true) :
    file ∈ files.expandBelow directory (Pattern.ofText name :: components) path ↔
      files.IsPresent path name ∧
        file ∈ files.expandBelow directory components (Path.join path name) := by
  rw [expandBelow.eq_def]
  simp only [Pattern.literal?_eq_some_iff.mpr rfl, child_of_isAbsolute absolute]
  by_cases dots : Path.IsDots name
  · have special : (decide (name = ['.']) || decide (name = ['.', '.'])) = true := by
      rwa [Bool.or_eq_true, decide_eq_true_eq, decide_eq_true_eq]
    simp [special, IsPresent, dots]
  · have special : (decide (name = ['.']) || decide (name = ['.', '.'])) = false := by
      rwa [← Bool.not_eq_true, Bool.or_eq_true, decide_eq_true_eq, decide_eq_true_eq]
    simp [special, IsPresent, dots]

theorem isDirectories_ofText (name : Text) : (Pattern.ofText name).isDirectories = false := by
  simp [Pattern.isDirectories, Pattern.ofText]

theorem head?_ofText_of_isDots (dots : Path.IsDots name) :
    (Pattern.ofText name).head? = some (.char '.') := by
  rcases dots with rfl | rfl <;> rfl

/-- What fits behind a component that is written out. -/
theorem fitsPath_ofText_iff (free : '/' ∉ name) :
    FitsPath (Pattern.ofText name :: components) names ↔
      if name = [] then names ≠ [] ∧ FitsPath components names
      else ∃ rest, names = name :: rest ∧ FitsPath components rest := by
  constructor
  · intro fits
    generalize written : Pattern.ofText name = component at fits
    cases fits with
    | empty some fits =>
      rw [if_pos (List.map_eq_nil_iff.mp written)]
      exact ⟨some, fits⟩
    | name _ segment own _ fits =>
      obtain rfl := Pattern.fits_ofText_iff.mp (written ▸ own)
      rw [if_neg segment.1]
      exact ⟨_, rfl, fits⟩
    | directories run =>
      rw [← written, isDirectories_ofText] at run
      cases run
  · split
    · next empty =>
      rintro ⟨some, fits⟩
      exact empty ▸ .empty some fits
    · next solid =>
      rintro ⟨rest, rfl, fits⟩
      exact .name (isDirectories_ofText name) ⟨solid, free⟩ (Pattern.fits_ofText_iff.mpr rfl)
        head?_ofText_of_isDots fits

/-- A component without wildcards is the name of an entry, and what is behind it is found below. -/
theorem finds_literal (free : '/' ∉ name) (rest : files.Finds directory components) :
    files.Finds directory (Pattern.ofText name :: components) := by
  intro path file absolute isFile
  rw [mem_expandBelow_literal absolute, rest _ _ (Path.isAbsolute_join absolute name) isFile]
  simp only [fitsPath_ofText_iff free]
  constructor
  · rintro ⟨-, noDirectory, names, fits, rfl⟩
    refine ⟨noDirectory, ?_⟩
    split
    · next empty =>
      subst empty
      have some : names ≠ [] := by
        rintro rfl
        exact not_isFile_join_nil absolute isFile
      exact ⟨names, ⟨some, fits⟩, Path.foldl_join_nil absolute some fits.free⟩
    · exact ⟨name :: names, ⟨names, rfl, fits⟩, rfl⟩
  · rintro ⟨noDirectory, names, fits, rfl⟩
    obtain ⟨rest, fits, same⟩ : ∃ rest, FitsPath components rest ∧
        names.foldl Path.join path = (name :: rest).foldl Path.join path := by
      split at fits
      · next empty =>
        subst empty
        exact ⟨names, fits.2, (Path.foldl_join_nil absolute fits.1 fits.2.free).symm⟩
      · obtain ⟨rest, rfl, fits⟩ := fits
        exact ⟨rest, fits, rfl⟩
    rw [same] at isFile ⊢
    exact ⟨isPresent_of_foldl_join absolute (List.forall_mem_cons.mpr ⟨free, fits.free⟩) isFile,
      noDirectory, rest, fits, rfl⟩

/-! ### A component with wildcards -/

/-- A component with wildcards is compared with a name of the directory, and with `.` and `..` if it
starts with a dot. -/
def Offers (files : FileSystem) (path : Text) (component : Pattern) (name : Text) : Prop :=
  (∃ location, files.locate path = .ok location ∧ name ∈ files.names location) ∨
    component.head? = some (.char '.') ∧ Path.IsDots name

/-- Files behind a component with wildcards. -/
theorem mem_expandBelow_wildcards (absolute : Path.isAbsolute path = true)
    (wild : component.literal? = none) (single : component.isDirectories = false) :
    file ∈ files.expandBelow directory (component :: components) path ↔
      files.isDirectory path = true ∧ ∃ name, files.Offers path component name ∧
        component.Fits name ∧
        file ∈ files.expandBelow directory components (Path.join path name) := by
  rw [expandBelow.eq_def]
  simp only [wild, single, Bool.false_eq_true, if_false]
  cases files.isDirectory path with
  | false => simp
  | true =>
    simp only [Bool.not_true, Bool.false_eq_true, if_false, true_and, List.mem_append,
      List.mem_flatMap, Prod.exists, mem_children_iff absolute, List.mem_ite_nil_right,
      Pattern.accepts_iff_fits]
    constructor
    · rintro (⟨_, name, ⟨location, here, offered, rfl⟩, own, member⟩ | ⟨name, dots, own, member⟩)
      · exact ⟨name, Or.inl ⟨location, here, offered⟩, own, member⟩
      · exact ⟨name, Or.inr (by simpa [Path.IsDots] using dots), own, member⟩
    · rintro ⟨name, ⟨location, here, offered⟩ | dots, own, member⟩
      · exact Or.inl ⟨_, name, ⟨location, here, offered, rfl⟩, own, member⟩
      · exact Or.inr ⟨name, by simpa [Path.IsDots] using dots, own, member⟩

theorem isEntryName_of_mem_names {location : Location} (named : files.IsNamed)
    (member : name ∈ files.names location) : Path.IsEntryName name := by
  obtain ⟨entry, stored⟩ := mem_names_iff.mp member
  exact named _ stored name (by simp)

/-- A component with wildcards finds what it stands for. -/
theorem finds_wildcards (named : files.IsNamed) (wild : component.literal? = none)
    (single : component.isDirectories = false) (rest : files.Finds directory components) :
    files.Finds directory (component :: components) := by
  intro path file absolute isFile
  rw [mem_expandBelow_wildcards absolute wild single]
  constructor
  · rintro ⟨-, name, offers, own, member⟩
    obtain ⟨noDirectory, names, fits, rfl⟩ :=
      (rest _ _ (Path.isAbsolute_join absolute name) isFile).mp member
    refine ⟨noDirectory, name :: names, ?_, rfl⟩
    rcases offers with ⟨location, -, offered⟩ | ⟨head, dots⟩
    · obtain ⟨segment, noDots⟩ := isEntryName_of_mem_names named offered
      exact .name single segment own (fun dots => absurd dots noDots) fits
    · exact .name single (Path.isSegment_of_isDots dots) own (fun _ => head) fits
  · rintro ⟨noDirectory, names, fits, rfl⟩
    cases fits with
    | empty => cases wild
    | directories run => rw [single] at run; cases run
    | name _ segment own dots fits =>
      next name names _ =>
      obtain ⟨place, content, found, -⟩ := isFile_iff.mp isFile
      have free : ∀ other ∈ name :: names, '/' ∉ other :=
        List.forall_mem_cons.mpr ⟨segment.2, fits.free⟩
      refine ⟨isDirectory_of_foldl_join absolute (List.cons_ne_nil _ _) free found, name, ?_, own,
        (rest _ _ (Path.isAbsolute_join absolute name) isFile).mpr ⟨noDirectory, names, fits, rfl⟩⟩
      by_cases isDots : Path.IsDots name
      · exact Or.inr ⟨dots isDots, isDots⟩
      · obtain ⟨location, entry, here, stored⟩ :=
          stored_of_foldl_join absolute (List.cons_ne_nil name [])
            (List.forall_mem_singleton.mpr ⟨segment, isDots⟩) fits.free found
        exact Or.inl ⟨location, here, mem_names_iff.mpr ⟨entry, stored⟩⟩

/-! ### Any number of directories -/

theorem literal?_of_isDirectories (run : component.isDirectories = true) :
    component.literal? = none := by
  rw [Option.eq_none_iff_forall_ne_some]
  intro name written
  rw [Pattern.literal?_eq_some_iff.mp written, isDirectories_ofText] at run
  cases run

/-- Nothing behind `**` stands for directories, none of them a file. -/
theorem finds_directories_last (run : component.isDirectories = true) :
    files.Finds directory [component] := by
  intro path file _ isFile
  refine iff_of_false (fun member => ?_) ?_
  · rw [expandBelow.eq_def] at member
    simp only [literal?_of_isDirectories run, run, if_true] at member
    split at member
    · cases member
    · exact not_isFile_of_isDirectory (List.mem_filter.mp member).2 isFile
  · rintro ⟨-, names, fits, -⟩
    cases fits with
    | empty => cases run
    | name single => rw [single] at run; cases run

/-- Files behind a component for any number of directories. -/
theorem mem_expandBelow_directories (absolute : Path.isAbsolute path = true)
    (run : component.isDirectories = true) :
    file ∈ files.expandBelow directory (component :: next :: components) path ↔
      files.isDirectory path = true ∧ ∃ location passed name entry,
        files.locate path = .ok location ∧
        (location ++ (passed ++ [name]), entry) ∈ files.entries ∧ next.Fits name ∧
        file ∈ files.expandBelow directory components
          ((passed ++ [name]).foldl Path.join path) := by
  rw [expandBelow.eq_def]
  simp only [literal?_of_isDirectories run, run, if_true]
  cases files.isDirectory path with
  | false => simp
  | true =>
    simp only [Bool.not_true, Bool.false_eq_true, if_false, true_and, List.mem_flatMap,
      Prod.exists, mem_descendants_iff absolute, List.mem_ite_nil_right, Pattern.accepts_iff_fits]
    constructor
    · rintro ⟨_, name, ⟨location, passed, entry, here, stored, rfl⟩, own, member⟩
      exact ⟨location, passed, name, entry, here, stored, own, member⟩
    · rintro ⟨location, passed, name, entry, here, stored, own, member⟩
      exact ⟨_, name, ⟨location, passed, entry, here, stored, rfl⟩, own, member⟩

/-- A component for any number of directories finds what it stands for. -/
theorem finds_directories (named : files.IsNamed) (run : component.isDirectories = true)
    (rest : files.Finds directory components) :
    files.Finds directory (component :: next :: components) := by
  intro path file absolute isFile
  rw [mem_expandBelow_directories absolute run]
  constructor
  · rintro ⟨-, location, passed, name, entry, -, stored, own, member⟩
    obtain ⟨noDirectory, names, fits, rfl⟩ :=
      (rest _ _ (Path.isAbsolute_foldl_join absolute _) isFile).mp member
    refine ⟨noDirectory, passed ++ name :: names, .directories run ?_ own fits, ?_⟩
    · exact fun other among => named _ stored other (List.mem_append_right location among)
    · rw [List.append_cons passed name names]
      exact List.foldl_append.symm
  · rintro ⟨noDirectory, names, fits, rfl⟩
    cases fits with
    | empty => cases run
    | name single => rw [single] at run; cases run
    | directories _ entries own fits =>
      next passed name names _ =>
      have some : passed ++ [name] ≠ [] := by simp
      have free : ∀ other ∈ passed ++ [name], '/' ∉ other :=
        fun other member => (entries other member).1.2
      rw [List.append_cons passed name names, List.foldl_append] at isFile ⊢
      obtain ⟨place, content, found, -⟩ := isFile_iff.mp isFile
      obtain ⟨location, entry, here, stored⟩ :=
        stored_of_foldl_join absolute some entries fits.free found
      have within := Path.isAbsolute_foldl_join absolute (passed ++ [name])
      obtain ⟨there, leads, -⟩ := locate_foldl_join within fits.free found
      exact ⟨isDirectory_of_foldl_join absolute some free leads, location, passed, name, entry,
        here, stored, own, (rest _ _ within isFile).mpr ⟨noDirectory, names, fits, rfl⟩⟩

/-! ### All components -/

/-- **What a pattern finds below a path** are the files whose names fit it. A component `**` takes the
next one along, so the induction is on their number. -/
theorem finds (named : files.IsNamed) (directory : Bool) (components : List Pattern)
    (free : ∀ component ∈ components, .char '/' ∉ component) :
    files.Finds directory components := by
  induction size : components.length using Nat.strong_induction_on generalizing components with
  | _ size ih =>
    subst size
    match components with
    | [] => exact finds_nil
    | component :: components =>
      obtain ⟨first, others⟩ := List.forall_mem_cons.mp free
      have rest := ih components.length (by simp) components others rfl
      cases written : component.literal? with
      | some name =>
        rw [Pattern.literal?_eq_some_iff] at written
        subst written
        exact finds_literal (fun member => first (List.mem_map_of_mem member)) rest
      | none =>
        cases run : component.isDirectories with
        | false => exact finds_wildcards named written run rest
        | true =>
          match components with
          | [] => exact finds_directories_last run
          | next :: components =>
            have shorter : components.length < (component :: next :: components).length := by
              simp only [List.length_cons]
              omega
            exact finds_directories named run
              (ih _ shorter components (List.forall_mem_cons.mp others).2 rfl)

end FileSystem

/-! ### Whole patterns -/

namespace PathPattern

variable {pattern : PathPattern} {text : Text}

/-- **The files that fit a pattern**, by the names that lead to them. -/
def FitsFile (pattern : PathPattern) (names : List Text) : Prop :=
  pattern.directory = false ∧ FitsPath pattern.components names

/-- **The paths that an absolute pattern stands for.** -/
def StandsFor (pattern : PathPattern) (file : Text) : Prop :=
  ∃ names, pattern.FitsFile names ∧ file = Location.path names

/-- A pattern for names is what a text is read as. -/
def Reads (text : Text) (component : Pattern) : Prop := Pattern.parse text = .ok component

theorem mapM_parse_eq_ok_iff {pieces : List Text} {components : List Pattern} :
    pieces.mapM Pattern.parse = .ok components ↔ List.Forall₂ Reads pieces components := by
  induction pieces generalizing components with
  | nil =>
    rw [List.forall₂_nil_left_iff]
    exact ⟨fun same => (Except.ok.inj same).symm, fun same => same ▸ rfl⟩
  | cons piece pieces ih =>
    rw [List.mapM_cons, List.forall₂_cons_left_iff]
    simp only [← ih, Reads]
    cases Pattern.parse piece with
    | error flaw => exact iff_of_false (fun same => by cases same) (by simp)
    | ok component =>
      cases pieces.mapM Pattern.parse with
      | error flaw => exact iff_of_false (fun same => by cases same) (by simp)
      | ok others =>
        constructor
        · intro same
          exact ⟨component, others, rfl, rfl, (Except.ok.inj same).symm⟩
        · rintro ⟨_, _, ⟨⟩, ⟨⟩, rfl⟩
          rfl

/-- **The components of a pattern** are the pieces of its text, each read by itself; `/` alone has
an empty one. -/
theorem parse_eq_ok_iff :
    parse text = .ok pattern ↔
      ∃ tokens components, Pattern.parse text = .ok tokens ∧
        List.Forall₂ Reads
          (splitComponents (if Path.isAbsolute text then text.drop 1 else text)) components ∧
        pattern = ⟨Path.isAbsolute text,
          collapse (if Path.isAbsolute text && text.length = 1 then [[]] else components),
          text.getLast? == some '/'⟩ := by
  unfold parse
  cases Pattern.parse text with
  | error flaw => exact iff_of_false (fun same => by cases same) (by simp)
  | ok tokens =>
    simp only [← mapM_parse_eq_ok_iff]
    cases (splitComponents (if Path.isAbsolute text then text.drop 1 else text)).mapM
        Pattern.parse with
    | error flaw => exact iff_of_false (fun same => by cases same) (by simp)
    | ok components =>
      constructor
      · intro same
        exact ⟨tokens, components, rfl, rfl, (Except.ok.inj same).symm⟩
      · rintro ⟨_, _, -, ⟨⟩, rfl⟩
        rfl

theorem collapse_subset (components : List Pattern) : collapse components ⊆ components := by
  fun_induction collapse components with
  | case1 => exact List.Subset.refl _
  | case2 => exact List.Subset.refl _
  | case3 component next components _ ih => exact List.subset_cons_of_subset component ih
  | case4 component next components _ ih => exact List.cons_subset_cons component ih

theorem splitComponents_subset (text : Text) : splitComponents text ⊆ Text.splitOn '/' text := by
  intro piece member
  unfold splitComponents at member
  split at member
  · next components shape =>
    rw [← List.mem_reverse, shape]
    exact List.mem_cons_of_mem _ (List.mem_reverse.mp member)
  · exact List.mem_reverse.mp (List.mem_reverse.mp member)

/-- No component holds a slash. -/
theorem slash_notMem_of_reads {pieces : List Text} (reads : List.Forall₂ Reads pieces components)
    (free : ∀ piece ∈ pieces, '/' ∉ piece) : ∀ component ∈ components, .char '/' ∉ component := by
  induction reads with
  | nil => exact List.forall_mem_nil _
  | cons read _ ih =>
    obtain ⟨first, others⟩ := List.forall_mem_cons.mp free
    exact List.forall_mem_cons.mpr
      ⟨fun slash => first (Pattern.mem_of_char_mem read slash), ih others⟩

/-- No component of a pattern holds a slash. -/
theorem slash_notMem_of_parse (parsed : parse text = .ok pattern) :
    ∀ component ∈ pattern.components, .char '/' ∉ component := by
  obtain ⟨tokens, components, -, reads, rfl⟩ := parse_eq_ok_iff.mp parsed
  have free := slash_notMem_of_reads reads fun piece member =>
    Text.not_mem_of_mem_splitOn (splitComponents_subset _ member)
  intro component member
  have among := collapse_subset _ member
  split at among
  · rw [List.mem_singleton.mp among]
    exact List.not_mem_nil
  · exact free component among

/-- **The files of an absolute pattern** are those whose names fit it. -/
theorem mem_expand_iff (named : files.IsNamed) (absolute : pattern.absolute = true)
    (free : ∀ component ∈ pattern.components, .char '/' ∉ component)
    (isFile : files.isFile file = true) :
    file ∈ files.expand pattern ↔ pattern.StandsFor file := by
  have below : ∀ {names}, FitsPath pattern.components names →
      names.foldl Path.join ['/'] = Location.path names := fun fits =>
    Location.foldl_join_path (List.forall_mem_nil _) fits.segments
  rw [expand, absolute, if_pos rfl]
  split
  · next empty =>
    refine iff_of_false List.not_mem_nil ?_
    rintro ⟨names, ⟨-, fits⟩, rfl⟩
    rw [List.isEmpty_iff.mp empty] at fits
    cases fits
    exact not_isFile_join_nil (rfl : Path.isAbsolute ['/'] = true) isFile
  · rw [finds named _ _ free _ _ rfl isFile]
    constructor
    · rintro ⟨noDirectory, names, fits, rfl⟩
      exact ⟨names, ⟨noDirectory, fits⟩, below fits⟩
    · rintro ⟨names, ⟨noDirectory, fits⟩, rfl⟩
      exact ⟨noDirectory, names, fits, (below fits).symm⟩

end PathPattern

end IconComponents
