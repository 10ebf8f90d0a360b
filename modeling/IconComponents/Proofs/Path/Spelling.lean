/-
**How paths and their parents are spelled.**

The segments of a path spell it, and a start of them spells each of its parents. So the parents of a
path, of a relative one as well as of an absolute one, are read off its segments, and names that are
joined to a path stand behind the segments of that path.

* `spell`, `splitOn_spell` — the path that a first segment and those behind it spell;
* `parent?_of_splitOn` — the nearest parent of a path;
* `spelled_of_mem_parents` — all of its parents;
* `splitOn_foldl_join` — names below a path.
-/

import IconComponents.Proofs.FileSystem.Parents

namespace IconComponents.Path

variable {path head name above : Text} {lead : Text} {segments front body names : List Text}

/-! ### Spelling -/

/-- The path that a first segment and those behind it spell. An empty first segment alone is the
root. -/
def spell (head : Text) (segments : List Text) : Text :=
  if head = [] ∧ segments = [] then ['/'] else head ++ segments.flatMap ('/' :: ·)

theorem spell_root (segments : List Text) : spell [] segments = Location.path segments := by
  rw [spell, Location.path]
  cases segments <;> rfl

theorem spell_of_ne_nil (some : head ≠ []) (segments : List Text) :
    spell head segments = head ++ segments.flatMap ('/' :: ·) :=
  if_neg fun empty => some empty.1

/-- A path is spelled by its segments, unless it is empty. -/
theorem eq_spell_of_splitOn (split : Text.splitOn '/' path = head :: segments)
    (some : path ≠ []) : path = spell head segments := by
  have whole := Location.flatMap_splitOn path
  rw [split, List.flatMap_cons, List.cons_append] at whole
  rw [spell, if_neg]
  · exact (List.cons.inj whole).2.symm
  · rintro ⟨rfl, rfl⟩
    exact some (Text.eq_nil_of_splitOn split)

/-- A spelled path has the segments that it was spelled from. -/
theorem splitOn_spell (some : head ≠ [] ∨ segments ≠ [])
    (free : ∀ segment ∈ head :: segments, '/' ∉ segment) :
    Text.splitOn '/' (spell head segments) = head :: segments := by
  obtain ⟨first, others⟩ := List.forall_mem_cons.mp free
  rw [spell, if_neg (fun empty => some.elim (· empty.1) (· empty.2)),
    Location.splitOn_flatMap head others, Text.splitOn_of_free first, List.singleton_append]

theorem joinWith_slash (head : Text) (segments : List Text) :
    Text.joinWith ['/'] (head :: segments) = head ++ segments.flatMap ('/' :: ·) := by
  induction segments generalizing head with
  | nil => simp [Text.joinWith]
  | cons segment segments ih =>
    have joined : Text.joinWith ['/'] (head :: segment :: segments) =
        head ++ '/' :: Text.joinWith ['/'] (segment :: segments) := by simp [Text.joinWith]
    rw [joined, ih, List.flatMap_cons, List.cons_append]

theorem ofShape_current (segments : List Text) : ofShape ['.'] segments = spell ['.'] segments := by
  have fold : ∀ (segments : List Text) (path : Text),
      segments.foldl (fun path segment => path ++ '/' :: segment) path =
        path ++ segments.flatMap ('/' :: ·) := by
    intro segments
    induction segments with
    | nil => simp
    | cons segment segments ih =>
      intro path
      rw [List.foldl_cons, ih, List.flatMap_cons, List.append_assoc]
  rw [ofShape, if_pos rfl, fold, spell_of_ne_nil (by decide)]

theorem ofShape_relative (some : head ≠ []) (segments : List Text) :
    ofShape [] (head :: segments) = spell head segments := by
  rw [ofShape, if_neg (by decide), List.nil_append, joinWith_slash, spell_of_ne_nil some]

/-! ### Parents -/

theorem shape_of_dot (relative : isAbsolute path = false)
    (split : Text.splitOn '/' path = ['.'] :: body) : shape path = (['.'], body) := by
  unfold shape
  split
  · cases relative
  · rw [split]
    rfl

theorem shape_of_name (relative : isAbsolute path = false)
    (split : Text.splitOn '/' path = head :: body) (notDot : head ≠ ['.']) :
    shape path = ([], head :: body) := by
  unfold shape
  split
  · cases relative
  · rw [split]
    split
    · next same => exact absurd (List.cons.inj same).1 notDot
    · rfl

/-- How a path starts: at the root, with a dot, or with a name. -/
theorem shape_cases (path : Text) :
    (∃ body, Text.splitOn '/' path = [] :: body ∧ shape path = (['/'], body)) ∨
      (∃ body, Text.splitOn '/' path = ['.'] :: body ∧ shape path = (['.'], body)) ∨
      (∃ head body, Text.splitOn '/' path = head :: body ∧ head ≠ ['.'] ∧ (head = [] → path = []) ∧
        shape path = ([], head :: body)) := by
  cases absolute : isAbsolute path with
  | true =>
    obtain ⟨rest, rfl⟩ := FileSystem.isAbsolute_eq_true_iff.mp absolute
    exact Or.inl ⟨_, Text.splitOn_cons '/' rest, rfl⟩
  | false =>
    obtain ⟨head, body, split⟩ := List.exists_cons_of_ne_nil (Text.splitOn_ne_nil '/' path)
    by_cases dot : head = ['.']
    · subst dot
      exact Or.inr (Or.inl ⟨body, split, shape_of_dot absolute split⟩)
    · refine Or.inr (Or.inr ⟨head, body, split, dot, ?_, shape_of_name absolute split dot⟩)
      rintro rfl
      by_contra some
      rw [eq_spell_of_splitOn split some, spell_root, Location.isAbsolute_path] at absolute
      cases absolute

/-- The parents of a path, from its shape. -/
theorem parents_of_shape (shaped : shape path = (lead, body)) : parents path =
    ((starts (strip body)).dropLast.filter endsInStep).reverse.map (ofShape lead) ++
      if lead = ['.'] then [[]] else [] := by
  rw [parents, shaped]
  rfl

/-- The nearest parent of a path, from its shape. -/
theorem parent?_of_shape (shaped : shape path = (lead, front ++ [name]))
    (solid : isVacuous name = false) : parent? path = some (ofShape lead (strip front)) := by
  rw [parent?, parents_of_shape shaped, strip_concat_of_solid solid, starts_concat,
    List.dropLast_concat, List.head?_append, List.head?_map, List.head?_reverse,
    getLast?_filter_starts]
  rfl

theorem strip_cons_of_solid (solid : isVacuous head = false) (segments : List Text) :
    strip (head :: segments) = head :: strip segments := by
  induction segments using List.reverseRecOn with
  | nil => exact strip_concat_of_solid solid []
  | append_singleton front segment ih =>
    rw [← List.cons_append]
    cases vacuous : isVacuous segment with
    | true => rw [strip_concat_of_vacuous vacuous, strip_concat_of_vacuous vacuous, ih]
    | false =>
      rw [strip_concat_of_solid vacuous, strip_concat_of_solid vacuous, List.cons_append]

/-- **The nearest parent of a path** is spelled by the segments in front of its last name. -/
theorem parent?_of_splitOn (split : Text.splitOn '/' path = front ++ [name])
    (solid : isVacuous name = false) :
    (front = [] ∧ parent? path = some []) ∨
      ∃ head segments, front = head :: segments ∧
        parent? path = some (spell head (strip segments)) := by
  have some : path ≠ [] := by
    rintro rfl
    obtain ⟨-, same⟩ := List.append_inj' (show [] ++ [[]] = front ++ [name] from split) rfl
    rw [← (List.cons.inj same).1] at solid
    cases solid
  rcases shape_cases path with ⟨body, split', shaped⟩ | ⟨body, split', shaped⟩ |
    ⟨head, body, split', notDot, empty, shaped⟩
  all_goals rw [split] at split'
  · cases front with
    | nil =>
      obtain ⟨rfl, -⟩ := List.cons.inj split'
      cases solid
    | cons head segments =>
      obtain ⟨rfl, rfl⟩ := List.cons.inj split'
      exact Or.inr ⟨[], segments, rfl, by rw [parent?_of_shape shaped solid, ofShape_root, spell_root]⟩
  · cases front with
    | nil =>
      obtain ⟨rfl, -⟩ := List.cons.inj split'
      cases solid
    | cons head segments =>
      obtain ⟨rfl, rfl⟩ := List.cons.inj split'
      exact Or.inr ⟨_, segments, rfl, by rw [parent?_of_shape shaped solid, ofShape_current]⟩
  · rw [← split'] at shaped
    cases front with
    | nil => exact Or.inl ⟨rfl, parent?_of_shape shaped solid⟩
    | cons first segments =>
      obtain ⟨rfl, -⟩ := List.cons.inj split'
      have notEmpty : first ≠ [] := fun same => some (empty same)
      have named : isVacuous first = false := by simp [isVacuous, notEmpty, notDot]
      exact Or.inr ⟨first, segments, rfl, by
        rw [parent?_of_shape shaped solid, strip_cons_of_solid named, ofShape_relative notEmpty]⟩

/-- **The parents of a path** are spelled by starts of its segments, except for the empty path. -/
theorem spelled_of_mem_parents (member : above ∈ parents path) :
    above = [] ∨ ∃ head body segments, Text.splitOn '/' path = head :: body ∧
      segments <+: body ∧ above = spell head segments := by
  have inside : ∀ {segments body : List Text},
      segments ∈ ((starts (strip body)).dropLast.filter endsInStep).reverse → segments <+: body := by
    intro segments body member
    have start := List.dropLast_subset _ (List.mem_filter.mp (List.mem_reverse.mp member)).1
    rw [starts_eq_inits, List.mem_inits] at start
    obtain ⟨⟨vacuous, split, -⟩, -⟩ := exists_strip body
    exact start.trans ⟨vacuous, split.symm⟩
  rcases shape_cases path with ⟨body, split, shaped⟩ | ⟨body, split, shaped⟩ |
    ⟨head, body, split, -, empty, shaped⟩
  all_goals rw [parents_of_shape shaped, List.mem_append] at member
  · rcases member with member | none
    · obtain ⟨segments, start, rfl⟩ := List.mem_map.mp member
      exact Or.inr ⟨_, body, segments, split, inside start, by rw [ofShape_root, spell_root]⟩
    · rw [if_neg (by decide)] at none
      cases none
  · rcases member with member | last
    · obtain ⟨segments, start, rfl⟩ := List.mem_map.mp member
      exact Or.inr ⟨_, body, segments, split, inside start, ofShape_current segments⟩
    · exact Or.inl (List.mem_singleton.mp last)
  · rcases member with member | none
    · obtain ⟨segments, start, rfl⟩ := List.mem_map.mp member
      rcases List.prefix_cons_iff.mp (inside start) with rfl | ⟨others, rfl, start'⟩
      · exact Or.inl rfl
      · refine Or.inr ⟨head, body, others, split, start', ofShape_relative ?_ others⟩
        rintro rfl
        obtain rfl := empty rfl
        obtain ⟨-, rfl⟩ := List.cons.inj split
        cases start
    · rw [if_neg (by decide)] at none
      cases none

/-! ### Names below a path -/

/-- The segments of a path that names below it stand behind. -/
def trunk (path : Text) : List Text :=
  if path = [] ∨ path.getLast? = some '/' then (Text.splitOn '/' path).dropLast
  else Text.splitOn '/' path

/-- A path has the segments of its trunk, and an empty one if it ends in a slash. -/
theorem splitOn_eq_trunk (nonempty : path ≠ []) :
    Text.splitOn '/' path = trunk path ∨ Text.splitOn '/' path = trunk path ++ [[]] := by
  by_cases slash : path.getLast? = some '/'
  · obtain ⟨front, rfl⟩ := List.getLast?_eq_some_iff.mp slash
    refine Or.inr ?_
    rw [trunk, if_pos (Or.inr slash), Text.splitOn_append]
    simp [Text.splitOn_of_free]
  · exact Or.inl (by rw [trunk, if_neg (not_or.mpr ⟨nonempty, slash⟩)])

theorem splitOn_join (path : Text) (free : '/' ∉ name) :
    Text.splitOn '/' (join path name) = trunk path ++ [name] := by
  have relative := FileSystem.isAbsolute_of_free free
  by_cases nonempty : path = []
  · subst nonempty
    rw [join, relative]
    exact Text.splitOn_of_free free
  · by_cases slash : path.getLast? = some '/'
    · obtain ⟨front, rfl⟩ := List.getLast?_eq_some_iff.mp slash
      rw [join_of_slash front relative, Text.splitOn_append, Text.splitOn_of_free free, trunk,
        if_pos (Or.inr slash), Text.splitOn_append]
      simp [Text.splitOn_of_free]
    · rw [join_of_no_slash nonempty slash relative, Text.splitOn_append, Text.splitOn_of_free free,
        trunk, if_neg (not_or.mpr ⟨nonempty, slash⟩)]

theorem join_segment_ne_nil (path : Text) (named : IsSegment name) : join path name ≠ [] := by
  intro empty
  have pieces := splitOn_join path named.2
  rw [empty] at pieces
  obtain ⟨-, same⟩ := List.append_inj' (show [] ++ [[]] = trunk path ++ [name] from pieces) rfl
  exact named.1 (List.cons.inj same).1.symm

/-- A name below a path is one segment more. -/
theorem trunk_join (path : Text) (named : IsSegment name) :
    trunk (join path name) = trunk path ++ [name] := by
  rw [trunk, if_neg, splitOn_join path named.2]
  rintro (empty | slash)
  · exact join_segment_ne_nil path named empty
  · obtain ⟨front, split⟩ := List.getLast?_eq_some_iff.mp slash
    have pieces := splitOn_join path named.2
    rw [split, Text.splitOn_append] at pieces
    obtain ⟨-, same⟩ := List.append_inj' pieces rfl
    exact named.1 (List.cons.inj same).1.symm

/-- **Names below a path** stand behind its segments. -/
theorem splitOn_foldl_join (path : Text) (some : names ≠ [])
    (named : ∀ name ∈ names, IsSegment name) :
    Text.splitOn '/' (names.foldl join path) = trunk path ++ names := by
  induction names generalizing path with
  | nil => exact absurd rfl some
  | cons name names ih =>
    obtain ⟨first, others⟩ := List.forall_mem_cons.mp named
    rw [List.foldl_cons]
    cases names with
    | nil => exact splitOn_join path first.2
    | cons next names =>
      rw [ih _ (List.cons_ne_nil _ _) others, trunk_join path first, List.append_assoc,
        List.singleton_append]

theorem isAbsolute_join_of_relative (path : Text) (relative : isAbsolute name = false) :
    isAbsolute (join path name) = isAbsolute path := by
  by_cases nonempty : path = []
  · subst nonempty
    rw [join, relative]
    exact relative
  · rw [join, relative]
    simp only [Bool.false_or, Bool.false_eq_true, if_false]
    split <;> exact FileSystem.isAbsolute_append nonempty _

theorem isAbsolute_foldl_join_of_segments (path : Text) (named : ∀ name ∈ names, IsSegment name) :
    isAbsolute (names.foldl join path) = isAbsolute path := by
  induction names generalizing path with
  | nil => rfl
  | cons name names ih =>
    obtain ⟨first, others⟩ := List.forall_mem_cons.mp named
    rw [List.foldl_cons, ih _ others,
      isAbsolute_join_of_relative path (FileSystem.isAbsolute_of_free first.2)]

/-- A name in a directory in a path, joined one after the other or at once. -/
theorem join_join (path : Text) {last : Text} (named : IsSegment name) (free : '/' ∉ last) :
    join (join path name) last = join path (name ++ '/' :: last) := by
  have relative := FileSystem.isAbsolute_of_free named.2
  have relative' : isAbsolute (name ++ '/' :: last) = false :=
    (FileSystem.isAbsolute_append named.1 _).trans relative
  have noSlash : ∀ front : Text, (front ++ name).getLast? ≠ some '/' := by
    intro front slash
    rw [List.getLast?_append_of_ne_nil _ named.1] at slash
    exact named.2 (List.mem_of_getLast? slash)
  have behind : ∀ front : Text, join (front ++ name) last = front ++ (name ++ '/' :: last) := by
    intro front
    rw [join_of_no_slash (by simp [named.1]) (noSlash front) (FileSystem.isAbsolute_of_free free),
      List.append_assoc]
  by_cases empty : path = []
  · subst empty
    have alone : ∀ name, isAbsolute name = false → join [] name = [] ++ name := by
      intro name relative
      simp [join, relative]
    rw [alone name relative, alone _ relative', behind]
  · by_cases slash : path.getLast? = some '/'
    · obtain ⟨front, rfl⟩ := List.getLast?_eq_some_iff.mp slash
      rw [join_of_slash front relative, join_of_slash front relative', List.append_cons, behind,
        ← List.append_cons]
    · rw [join_of_no_slash empty slash relative, join_of_no_slash empty slash relative',
        List.append_cons, behind, ← List.append_cons]

/-- The nearest parent of a name in a directory is the path of the directory, as it is spelled. -/
theorem parent?_join_join (path : Text) {last : Text} (named : IsEntryName name)
    (named' : IsEntryName last) : parent? (join (join path name) last) = some (join path name) := by
  have solid : ∀ {name : Text}, IsEntryName name → isVacuous name = false := fun named => by
    simp [isVacuous, named.1.1, (not_or.mp named.2).1]
  have split : Text.splitOn '/' (join (join path name) last) = (trunk path ++ [name]) ++ [last] := by
    rw [splitOn_join _ named'.1.2, trunk_join path named.1]
  have whole := splitOn_join path named.1.2
  rcases parent?_of_splitOn split (solid named') with ⟨empty, -⟩ | ⟨head, segments, front, parent⟩
  · simp at empty
  · rw [front] at whole
    have stripped : strip segments = segments := by
      rcases List.eq_nil_or_concat' segments with rfl | ⟨others, final, rfl⟩
      · rfl
      · obtain ⟨-, same⟩ := List.append_inj' (front.trans (List.cons_append (a := head)).symm) rfl
        obtain rfl := (List.cons.inj same).1
        exact strip_concat_of_solid (solid named) _
    rw [parent, stripped, ← eq_spell_of_splitOn whole (join_segment_ne_nil path named.1)]

end IconComponents.Path
