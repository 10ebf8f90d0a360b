/-
**An entry that is seen from a directory.**

A relative entry is put behind the path of its directory, and the text that comes of it is read as a
pattern. So a character that means something in a pattern means it in the directory's path as well.
A directory without such a character stands for itself, and then the entry selects the files below
it that fit.

* `parse_join` — a plain directory in front of a pattern;
* `fitsPath_append_iff` — the names that fit behind names that are written out;
* `selectIcons_resolvePattern` — the files that an entry selects.
-/

import IconComponents.Config.Load
import IconComponents.Generation.Run
import IconComponents.Proofs.Glob.Expansion
import IconComponents.Proofs.Path.Order

namespace IconComponents

variable {files : FileSystem} {root path entry : Text} {pattern : PathPattern}
  {components : List Pattern} {names pieces : List Text}

/-! ### The path of a directory -/

/-- An absolute path without empty segments. -/
def Path.tidy (path : Text) : Text :=
  Location.path ((Text.splitOn '/' path).filter fun piece => !piece.isEmpty)

/-- The pieces of an absolute path: all paths that are seen from it start with them. -/
def Path.HasPieces (root : Text) (pieces : List Text) : Prop :=
  ∀ path, Path.isAbsolute path = false →
    Text.splitOn '/' (Path.join root path) = [] :: (pieces ++ Text.splitOn '/' path)

theorem Path.HasPieces.free (has : Path.HasPieces root pieces) : ∀ piece ∈ pieces, '/' ∉ piece := by
  intro piece member
  have among : piece ∈ Text.splitOn '/' (Path.join root []) := by
    rw [has [] rfl]
    exact List.mem_cons_of_mem _ (List.mem_append_left _ member)
  exact Text.not_mem_of_mem_splitOn among

/-- **What is joined to an absolute path** stands behind one slash, whether the path ends in a slash
or not. -/
theorem Path.exists_join_eq (absolute : Path.isAbsolute root = true) :
    ∃ front pieces, front ⊆ root ∧ Text.splitOn '/' front = [] :: pieces ∧
      ∀ path, Path.isAbsolute path = false → Path.join root path = front ++ '/' :: path := by
  have starts : ∀ {front : Text}, front = [] ∨ Path.isAbsolute front = true →
      ∃ pieces, Text.splitOn '/' front = [] :: pieces := by
    rintro front (rfl | absolute)
    · exact ⟨[], rfl⟩
    · obtain ⟨rest, rfl⟩ := FileSystem.isAbsolute_eq_true_iff.mp absolute
      exact ⟨_, Text.splitOn_cons '/' rest⟩
  by_cases slash : root.getLast? = some '/'
  · obtain ⟨front, rfl⟩ := List.getLast?_eq_some_iff.mp slash
    have shorter : front = [] ∨ Path.isAbsolute front = true := by
      by_cases empty : front = []
      · exact Or.inl empty
      · exact Or.inr (FileSystem.isAbsolute_append empty ['/'] ▸ absolute)
    obtain ⟨pieces, cut⟩ := starts shorter
    exact ⟨front, pieces, List.subset_append_left front _, cut,
      fun path relative => Path.join_of_slash front relative⟩
  · obtain ⟨pieces, cut⟩ := starts (Or.inr absolute)
    exact ⟨root, pieces, List.Subset.refl root, cut,
      fun path relative =>
        Path.join_of_no_slash (Path.ne_nil_of_isAbsolute absolute) slash relative⟩

theorem Path.hasPieces_of_join {front : Text} (cut : Text.splitOn '/' front = [] :: pieces)
    (joined : ∀ path, Path.isAbsolute path = false → Path.join root path = front ++ '/' :: path) :
    Path.HasPieces root pieces := by
  intro path relative
  rw [joined path relative, Text.splitOn_append, cut, List.cons_append]

theorem Path.isAbsolute_of_splitOn (solid : ∀ piece ∈ Text.splitOn '/' path, piece ≠ []) :
    Path.isAbsolute path = false := by
  rw [← Bool.not_eq_true, FileSystem.isAbsolute_eq_true_iff]
  rintro ⟨rest, rfl⟩
  refine solid [] ?_ rfl
  rw [Text.splitOn_cons]
  exact List.mem_cons_self

/-! ### A plain directory in front of a pattern -/

theorem PathPattern.splitComponents_of_splitOn {text other : Text}
    (cut : Text.splitOn '/' text = pieces ++ Text.splitOn '/' other) :
    splitComponents text = pieces ++ splitComponents other := by
  unfold splitComponents
  rw [cut, List.reverse_append]
  cases shape : (Text.splitOn '/' other).reverse with
  | nil => exact absurd (List.reverse_eq_nil_iff.mp shape) (Text.splitOn_ne_nil _ _)
  | cons last others =>
    cases last with
    | nil => simp
    | cons c last => simp

theorem PathPattern.collapse_append (pieces : List Text) (components : List Pattern) :
    collapse (pieces.map Pattern.ofText ++ components) =
      pieces.map Pattern.ofText ++ collapse components := by
  induction pieces with
  | nil => rfl
  | cons piece pieces ih =>
    rw [List.map_cons, List.cons_append, List.cons_append, ← ih]
    cases pieces.map Pattern.ofText ++ components with
    | nil => rfl
    | cons next others => rw [collapse, FileSystem.isDirectories_ofText, Bool.false_and]; rfl

/-- Behind the first slash the pieces of the directory come first. -/
theorem PathPattern.splitComponents_join (absolute : Path.isAbsolute root = true)
    (has : Path.HasPieces root pieces) (relative : Path.isAbsolute entry = false) :
    splitComponents ((Path.join root entry).drop 1) = pieces ++ splitComponents entry := by
  obtain ⟨rest, shape⟩ :=
    FileSystem.isAbsolute_eq_true_iff.mp (Path.isAbsolute_join absolute entry)
  have same := has entry relative
  rw [shape, Text.splitOn_cons] at same
  rw [shape]
  exact splitComponents_of_splitOn (List.cons.inj same).2

theorem PathPattern.reads_plain (plain : ∀ piece ∈ pieces, ∀ c ∈ piece, Pattern.IsPlain c) :
    List.Forall₂ Reads pieces (pieces.map Pattern.ofText) := by
  rw [List.forall₂_map_right_iff, List.forall₂_same]
  exact fun piece member => Pattern.parse_plain (plain piece member) 0 true

/-- **A plain directory in front of a pattern** is read as itself. -/
theorem PathPattern.parse_join (absolute : Path.isAbsolute root = true)
    (plain : ∀ c ∈ root, Pattern.IsPlain c) (relative : Path.isAbsolute entry = false)
    (some : entry ≠ []) (parsed : PathPattern.parse entry = .ok pattern) :
    ∃ pieces, Path.HasPieces root pieces ∧
      PathPattern.parse (Path.join root entry) =
        .ok ⟨true, pieces.map Pattern.ofText ++ pattern.components, pattern.directory⟩ := by
  obtain ⟨front, pieces, within, cut, joined⟩ := Path.exists_join_eq absolute
  have has := Path.hasPieces_of_join cut joined
  have frontPlain : ∀ c ∈ front, Pattern.IsPlain c := fun c member => plain c (within member)
  have piecesPlain : ∀ piece ∈ pieces, ∀ c ∈ piece, Pattern.IsPlain c := by
    intro piece member c inside
    have among : piece ∈ Text.splitOn '/' front := cut ▸ List.mem_cons_of_mem [] member
    exact frontPlain c (Text.subset_of_mem_splitOn among inside)
  obtain ⟨tokens, components, read, reads, rfl⟩ := parse_eq_ok_iff.mp parsed
  have starts := Path.isAbsolute_join absolute entry
  refine ⟨pieces, has, parse_eq_ok_iff.mpr ⟨Pattern.ofText (front ++ ['/']) ++ tokens,
    pieces.map Pattern.ofText ++ components, ?_, ?_, ?_⟩⟩
  · rw [joined entry relative]
    exact Pattern.parseFrom_plain frontPlain read 0 true
  · rw [if_pos starts, splitComponents_join absolute has relative]
    rw [relative, if_neg Bool.false_ne_true] at reads
    exact List.rel_append (reads_plain piecesPlain) reads
  · have long : (Path.join root entry).length ≠ 1 := by
      rw [joined entry relative, List.length_append, List.length_cons]
      have := List.length_pos_iff.mpr some
      omega
    have last : (Path.join root entry).getLast? = entry.getLast? := by
      rw [joined entry relative, List.getLast?_append_cons, ← List.singleton_append,
        List.getLast?_append_of_ne_nil _ some]
    simp only [starts, relative, long, last, collapse_append, decide_false, Bool.and_false,
      Bool.false_and, Bool.false_eq_true, if_false]

/-! ### Names behind names that are written out -/

theorem FitsPath.ne_nil (fits : FitsPath components names) (some : components ≠ []) :
    names ≠ [] := by
  cases fits with
  | done => exact absurd rfl some
  | empty some => exact some
  | name => exact List.cons_ne_nil _ _
  | directories => simp

/-- **What fits behind names that are written out.** -/
theorem fitsPath_append_iff (some : components ≠ []) (free : ∀ piece ∈ pieces, '/' ∉ piece) :
    FitsPath (pieces.map Pattern.ofText ++ components) names ↔
      ∃ rest, names = (pieces.filter fun piece => !piece.isEmpty) ++ rest ∧
        FitsPath components rest := by
  induction pieces generalizing names with
  | nil => simp
  | cons piece pieces ih =>
    obtain ⟨first, others⟩ := List.forall_mem_cons.mp free
    rw [List.map_cons, List.cons_append, FileSystem.fitsPath_ofText_iff first]
    simp only [ih others]
    by_cases empty : piece = []
    · subst empty
      rw [if_pos rfl, List.filter_cons_of_neg (by simp)]
      refine and_iff_right_of_imp ?_
      rintro ⟨rest, rfl, fits⟩
      simp [fits.ne_nil some]
    · rw [if_neg empty, List.filter_cons_of_pos (by simpa using empty)]
      constructor
      · rintro ⟨_, rfl, rest, rfl, fits⟩
        exact ⟨rest, rfl, fits⟩
      · rintro ⟨rest, rfl, fits⟩
        exact ⟨_, rfl, rest, rfl, fits⟩

theorem PathPattern.splitComponents_ne_nil {text : Text} (some : text ≠ []) :
    splitComponents text ≠ [] := by
  unfold splitComponents
  split
  · next components shape =>
    rw [ne_eq, List.reverse_eq_nil_iff]
    rintro rfl
    exact some (Text.eq_nil_of_splitOn (List.reverse_eq_iff.mp shape))
  · rw [List.reverse_reverse]
    exact Text.splitOn_ne_nil '/' text

theorem PathPattern.collapse_ne_nil (some : components ≠ []) : collapse components ≠ [] := by
  fun_induction collapse components with
  | case1 => exact absurd rfl some
  | case2 => exact some
  | case3 component next components _ ih => exact ih (List.cons_ne_nil _ _)
  | case4 => exact List.cons_ne_nil _ _

theorem PathPattern.components_ne_nil (relative : Path.isAbsolute entry = false)
    (some : entry ≠ []) (parsed : PathPattern.parse entry = .ok pattern) :
    pattern.components ≠ [] := by
  obtain ⟨tokens, components, -, reads, rfl⟩ := parse_eq_ok_iff.mp parsed
  simp only [relative, Bool.false_and, Bool.false_eq_true, if_false] at reads ⊢
  refine collapse_ne_nil ?_
  rintro rfl
  exact splitComponents_ne_nil some (List.forall₂_nil_right_iff.mp reads)

/-! ### The files of an entry -/

/-- The icons of an entry are the files that are meant. -/
def Generation.SelectsFiles (files : FileSystem) (entry : Text) (IsMeant : Text → Prop) : Prop :=
  ∃ icons, selectIcons files entry = .ok icons ∧
    ∀ icon, icon ∈ icons ↔ files.isFile icon = true ∧ IsMeant icon

/-- **A path below a directory that fits a relative pattern there.** -/
def PathPattern.IsBelow (pattern : PathPattern) (root icon : Text) : Prop :=
  ∃ file, pattern.FitsFile (Text.splitOn '/' file) ∧ icon = Path.tidy (Path.join root file)

namespace Generation

theorem selectsFiles_of_absolute (named : files.IsNamed) (absolute : Path.isAbsolute entry = true)
    (parsed : PathPattern.parse entry = .ok pattern) :
    SelectsFiles files entry pattern.StandsFor := by
  have starts : pattern.absolute = true := by
    obtain ⟨tokens, components, -, -, rfl⟩ := PathPattern.parse_eq_ok_iff.mp parsed
    exact absolute
  refine ⟨Path.sort ((files.expand pattern).filter files.isFile), by rw [selectIcons, parsed],
    fun icon => ?_⟩
  rw [(Path.sort_perm _).mem_iff, List.mem_filter, and_comm]
  refine and_congr_right fun isFile => ?_
  exact PathPattern.mem_expand_iff named starts (PathPattern.slash_notMem_of_parse parsed) isFile

theorem tidy_join {file : Text} (has : Path.HasPieces root pieces)
    (segments : ∀ piece ∈ Text.splitOn '/' file, Path.IsSegment piece) :
    Path.tidy (Path.join root file) =
      Location.path ((pieces.filter fun piece => !piece.isEmpty) ++ Text.splitOn '/' file) := by
  have solid : ∀ piece ∈ Text.splitOn '/' file, piece ≠ [] :=
    fun piece member => (segments piece member).1
  have kept : ((Text.splitOn '/' file).filter fun piece => !piece.isEmpty) =
      Text.splitOn '/' file :=
    List.filter_eq_self.mpr fun piece member => by simpa using solid piece member
  rw [Path.tidy, has file (Path.isAbsolute_of_splitOn solid), List.filter_cons_of_neg (by simp),
    List.filter_append, kept]

/-- What fits behind the names of a directory is what fits below the directory. -/
theorem isBelow_iff (some : pattern.components ≠ []) (has : Path.HasPieces root pieces)
    (icon : Text) :
    PathPattern.StandsFor
        ⟨true, pieces.map Pattern.ofText ++ pattern.components, pattern.directory⟩ icon ↔
      pattern.IsBelow root icon := by
  constructor
  · rintro ⟨names, ⟨noDirectory, fits⟩, rfl⟩
    obtain ⟨rest, rfl, inside⟩ := (fitsPath_append_iff some has.free).mp fits
    have cut := Text.splitOn_joinWith (inside.ne_nil some) inside.free
    refine ⟨Text.joinWith ['/'] rest, ⟨noDirectory, cut.symm ▸ inside⟩, ?_⟩
    rw [tidy_join has (cut.symm ▸ inside.segments), cut]
  · rintro ⟨file, ⟨noDirectory, fits⟩, rfl⟩
    exact ⟨_, ⟨noDirectory, (fitsPath_append_iff some has.free).mpr ⟨_, rfl, fits⟩⟩,
      tidy_join has fits.segments⟩

/-- **Which files a relative entry selects.** The entry is read as a pattern together with the path
of its directory, and the files are those that fit the whole. Where the directory's path holds
nothing that means something in a pattern, they are the files below the directory that fit the
entry. -/
theorem selectIcons_resolvePattern (named : files.IsNamed) (absolute : Path.isAbsolute root = true)
    (relative : Path.isAbsolute entry = false) (written : Text.isBlank entry = false) :
    (∀ pattern, PathPattern.parse (Path.join root entry) = .ok pattern →
      SelectsFiles files (resolvePattern root entry) pattern.StandsFor) ∧
    ((∀ c ∈ root, Pattern.IsPlain c) → ∀ pattern, PathPattern.parse entry = .ok pattern →
      SelectsFiles files (resolvePattern root entry) (pattern.IsBelow root)) := by
  have resolved : resolvePattern root entry = Path.join root entry := by
    rw [resolvePattern, written, relative, Bool.or_self, if_neg Bool.false_ne_true]
  have some : entry ≠ [] := by
    rintro rfl
    cases written
  rw [resolved]
  have starts := Path.isAbsolute_join absolute entry
  refine ⟨fun pattern => selectsFiles_of_absolute named starts, fun plain pattern parsed => ?_⟩
  obtain ⟨pieces, has, together⟩ := PathPattern.parse_join absolute plain relative some parsed
  obtain ⟨icons, selected, meant⟩ := selectsFiles_of_absolute named starts together
  refine ⟨icons, selected, fun icon => ?_⟩
  rw [meant, isBelow_iff (PathPattern.components_ne_nil relative some parsed) has]

/-- A project in a directory with a plain name. -/
def shelf : FileSystem :=
  { entries :=
      [(["p".toList], .directory), (["p".toList, "icons".toList], .directory),
        (["p".toList, "icons".toList, "a.svg".toList], .file (.text "<svg/>".toList))]
    current := ["p".toList] }

/-- The entry of the project selects the icons below the project. -/
theorem selectIcons_shelf :
    ∃ pattern, PathPattern.parse "icons/*.svg".toList = .ok pattern ∧
      SelectsFiles shelf (resolvePattern "/p".toList "icons/*.svg".toList)
        (pattern.IsBelow "/p".toList) :=
  ⟨⟨false, [Pattern.ofText "icons".toList, .sequence :: Pattern.ofText ".svg".toList], false⟩,
    by decide +kernel,
    (selectIcons_resolvePattern (by decide +kernel) rfl rfl (by decide +kernel)).2
      (by simp [Pattern.IsPlain]) _ (by decide +kernel)⟩

/-- Two directories; read as a pattern, the name of one is the name of the other. -/
def bracketed : FileSystem :=
  { entries :=
      [(["a[1]".toList], .directory),
        (["a[1]".toList, "x.svg".toList], .file (.text "<svg/>".toList)),
        (["a1".toList], .directory),
        (["a1".toList, "y.svg".toList], .file (.text "<svg/>".toList))]
    current := ["a[1]".toList] }

/-- **A directory with brackets in its name loses its icons**, and the entry selects those of
another directory. -/
theorem bracketed_selects_other :
    bracketed.IsNamed ∧
      selectIcons bracketed (resolvePattern bracketed.currentPath "*.svg".toList) =
        .ok ["/a1/y.svg".toList] ∧
      ∃ pattern, PathPattern.parse "*.svg".toList = .ok pattern ∧
        bracketed.isFile "/a[1]/x.svg".toList = true ∧
        pattern.IsBelow bracketed.currentPath "/a[1]/x.svg".toList ∧
        ¬ SelectsFiles bracketed (resolvePattern bracketed.currentPath "*.svg".toList)
          (pattern.IsBelow bracketed.currentPath) := by
  have selected : selectIcons bracketed (resolvePattern bracketed.currentPath "*.svg".toList) =
      .ok ["/a1/y.svg".toList] := by decide +kernel
  have parsed : PathPattern.parse "*.svg".toList =
      .ok ⟨false, [.sequence :: Pattern.ofText ".svg".toList], false⟩ := by decide +kernel
  have isFile : bracketed.isFile "/a[1]/x.svg".toList = true := by decide +kernel
  have fits : FitsPath [.sequence :: Pattern.ofText ".svg".toList] ["x.svg".toList] :=
    .name (by decide +kernel) (by decide +kernel)
      (Pattern.accepts_iff_fits.mp (by decide +kernel)) (by decide +kernel) .done
  have below : PathPattern.IsBelow ⟨false, [.sequence :: Pattern.ofText ".svg".toList], false⟩
      bracketed.currentPath "/a[1]/x.svg".toList :=
    ⟨"x.svg".toList, ⟨rfl, fits⟩, by decide +kernel⟩
  refine ⟨by decide +kernel, selected, _, parsed, isFile, below, ?_⟩
  rintro ⟨icons, found, meant⟩
  rw [selected] at found
  cases found
  exact absurd ((meant _).mpr ⟨isFile, below⟩) (by decide +kernel)

end Generation

end IconComponents
