/-
**The directories above a path.**

The parents of a path are read off its text. For the path of a location they are the paths of the
locations above it, the nearest one first. For any path that leads to a file, the nearest parent
leads to the directory of the file: what is left out of the text at its end leads nowhere new.

* `parents_path` — the parents of the path of a location;
* `IsTree.locate_parent?` — the parent of a path to a file;
* `isEntryName_of_locate` — where paths lead;
* `locate_path`, `absolute_path` — the path of a location leads to it.
-/

import Mathlib.Data.List.Infix
import IconComponents.Proofs.FileSystem.Below

namespace IconComponents

/-! ### The text of a path -/

namespace Location

variable {location other : Location} {segments : List Text}

/-- Segments that are written behind a text are cut off again. -/
theorem splitOn_flatMap (front : Text) (free : ∀ segment ∈ segments, '/' ∉ segment) :
    Text.splitOn '/' (front ++ segments.flatMap ('/' :: ·)) =
      Text.splitOn '/' front ++ segments := by
  induction segments generalizing front with
  | nil => simp
  | cons segment segments ih =>
    obtain ⟨first, others⟩ := List.forall_mem_cons.mp free
    rw [List.flatMap_cons, List.cons_append, Text.splitOn_append, ih segment others,
      Text.splitOn_of_free first, List.singleton_append]

theorem flatMap_splitOn (text : Text) :
    (Text.splitOn '/' text).flatMap ('/' :: ·) = '/' :: text := by
  induction text with
  | nil => rfl
  | cons c text ih =>
    by_cases slash : c = '/'
    · subst slash
      rw [Text.splitOn_cons, List.flatMap_cons, ih]
      rfl
    · obtain ⟨piece, others, more⟩ := List.exists_cons_of_ne_nil (Text.splitOn_ne_nil '/' text)
      have pieces : Text.splitOn '/' (c :: text) = (c :: piece) :: others := by
        rw [Text.splitOn] at more ⊢
        rw [Text.splitWhere, if_neg (by simpa using slash), more]
      rw [more, List.flatMap_cons, List.cons_append, List.cons.injEq] at ih
      rw [pieces, List.flatMap_cons, List.cons_append, List.cons_append, ih.2]

theorem path_of_ne_nil (below : location ≠ []) : location.path = location.flatMap ('/' :: ·) := by
  rw [path, if_neg (by simpa using below)]

/-- The path of a location tells its names. -/
theorem path_injective (named : ∀ name ∈ location, Path.IsSegment name)
    (named' : ∀ name ∈ other, Path.IsSegment name) (same : location.path = other.path) :
    location = other := by
  have root : ∀ {place : Location}, (∀ name ∈ place, Path.IsSegment name) → place.path = ['/'] →
      place = [] := by
    intro place segments same
    cases place with
    | nil => rfl
    | cons name place =>
      rw [path_of_ne_nil (List.cons_ne_nil _ _), List.flatMap_cons, List.cons_append] at same
      have empty := (List.append_eq_nil_iff.mp (List.cons.inj same).2).1
      exact absurd empty (segments name List.mem_cons_self).1
  by_cases below : location = []
  · subst below
    exact (root named' same.symm).symm
  · by_cases below' : other = []
    · subst below'
      exact root named same
    · rw [path_of_ne_nil below, path_of_ne_nil below'] at same
      have pieces := splitOn_flatMap [] fun name member => (named name member).2
      rw [same, splitOn_flatMap [] fun name member => (named' name member).2] at pieces
      exact (List.append_cancel_left pieces).symm

end Location

/-! ### Parents -/

namespace Path

variable {location : Location} {segments front : List Text} {segment : Text}

/-- Segments without those at the end that lead nowhere new. -/
def strip (segments : List Text) : List Text := (segments.reverse.dropWhile isVacuous).reverse

theorem strip_concat_of_vacuous (vacuous : isVacuous segment = true) (front : List Text) :
    strip (front ++ [segment]) = strip front := by
  rw [strip, List.reverse_append, List.reverse_singleton, List.singleton_append,
    List.dropWhile_cons_of_pos vacuous, strip]

theorem strip_concat_of_solid (solid : isVacuous segment = false) (front : List Text) :
    strip (front ++ [segment]) = front ++ [segment] := by
  rw [strip, List.reverse_append, List.reverse_singleton, List.singleton_append,
    List.dropWhile_cons_of_neg (by simp [solid]), List.reverse_cons, List.reverse_reverse]

/-- What is left out at the end leads nowhere new, and what is left ends in a step. -/
theorem exists_strip (segments : List Text) :
    (∃ vacuous, segments = strip segments ++ vacuous ∧ ∀ s ∈ vacuous, isVacuous s = true) ∧
      (strip segments = [] ∨ ∃ front last, strip segments = front ++ [last] ∧
        isVacuous last = false) := by
  induction segments using List.reverseRecOn with
  | nil => exact ⟨⟨[], rfl, fun _ member => by cases member⟩, Or.inl rfl⟩
  | append_singleton front segment ih =>
    cases vacuous : isVacuous segment with
    | true =>
      obtain ⟨⟨more, split, all⟩, last⟩ := ih
      rw [strip_concat_of_vacuous vacuous]
      refine ⟨⟨more ++ [segment], by rw [← List.append_assoc, ← split], ?_⟩, last⟩
      intro s member
      rcases List.mem_append.mp member with member | member
      · exact all s member
      · exact List.mem_singleton.mp member ▸ vacuous
    | false =>
      rw [strip_concat_of_solid vacuous]
      exact ⟨⟨[], (List.append_nil _).symm, fun _ member => by cases member⟩,
        Or.inr ⟨front, segment, rfl, vacuous⟩⟩

theorem starts_eq_inits {α : Type} (list : List α) : starts list = list.inits := by
  induction list with
  | nil => rfl
  | cons a list ih => rw [starts, ih, List.inits_cons]

theorem starts_concat {α : Type} (list : List α) (a : α) :
    starts (list ++ [a]) = starts list ++ [list ++ [a]] := by
  rw [starts_eq_inits, List.inits_append, starts_eq_inits]
  rfl

theorem starts_eq_dropLast {α : Type} (list : List α) :
    starts list = (starts list).dropLast ++ [list] := by
  induction list using List.reverseRecOn with
  | nil => rfl
  | append_singleton list a _ => rw [starts_concat, List.dropLast_concat]

theorem endsInStep_concat (front : List Text) (segment : Text) :
    endsInStep (front ++ [segment]) = !isVacuous segment := by
  simp [endsInStep]

/-- The longest start that ends in a step is what is left after the others are left out. -/
theorem getLast?_filter_starts (segments : List Text) :
    ((starts segments).filter endsInStep).getLast? = some (strip segments) := by
  induction segments using List.reverseRecOn with
  | nil => rfl
  | append_singleton front segment ih =>
    rw [starts_concat, List.filter_append, List.filter_singleton, endsInStep_concat]
    cases vacuous : isVacuous segment with
    | true => simpa [strip_concat_of_vacuous vacuous] using ih
    | false => simp [strip_concat_of_solid vacuous]

theorem ofShape_root (segments : List Text) : ofShape ['/'] segments = Location.path segments := by
  have joined : ∀ segments : List Text, segments ≠ [] →
      '/' :: Text.joinWith ['/'] segments = segments.flatMap ('/' :: ·) := by
    intro segments some
    induction segments with
    | nil => exact absurd rfl some
    | cons segment segments ih =>
      cases segments with
      | nil => simp [Text.joinWith]
      | cons next segments =>
        rw [List.flatMap_cons, ← ih (List.cons_ne_nil _ _)]
        simp [Text.joinWith]
  rw [ofShape, if_neg (by decide), List.singleton_append]
  cases segments with
  | nil => rfl
  | cons segment segments =>
    rw [joined _ (List.cons_ne_nil _ _), Location.path_of_ne_nil (List.cons_ne_nil _ _)]

/-- The parents of an absolute path, from its segments. -/
theorem parents_root (rest : Text) : parents ('/' :: rest) =
    (((starts (strip (Text.splitOn '/' rest))).dropLast.filter endsInStep).reverse).map
      Location.path := by
  rw [parents, shape]
  simp only [strip, if_neg (show (['/'] : Text) ≠ ['.'] by decide), List.append_nil]
  exact List.map_congr_left fun segments _ => ofShape_root segments

theorem isAbsolute_of_mem_parents {path parent : Text} (absolute : isAbsolute path = true)
    (member : parent ∈ parents path) : isAbsolute parent = true := by
  obtain ⟨rest, rfl⟩ := FileSystem.isAbsolute_eq_true_iff.mp absolute
  rw [parents_root] at member
  obtain ⟨segments, -, rfl⟩ := List.mem_map.mp member
  exact Location.isAbsolute_path segments

/-- **The nearest parent** is spelled by the segments in front of the last one. -/
theorem parent?_root {rest : Text} (split : Text.splitOn '/' rest = front ++ [segment])
    (solid : isVacuous segment = false) :
    parent? ('/' :: rest) = some (Location.path (strip front)) := by
  rw [parent?, parents_root, split, strip_concat_of_solid solid, starts_concat,
    List.dropLast_concat, List.head?_map, List.head?_reverse, getLast?_filter_starts,
    Option.map_some]

/-- **The parents of the path of a location** are the paths of the locations above it. -/
theorem parents_path (named : ∀ name ∈ location, IsEntryName name) :
    parents location.path = ((starts location).dropLast.reverse).map Location.path := by
  have solid : ∀ name ∈ location, isVacuous name = false := by
    intro name member
    obtain ⟨segment, dots⟩ := named name member
    simp [isVacuous, segment.1, (not_or.mp dots).1]
  cases location with
  | nil => rfl
  | cons name location =>
    have free : ∀ segment ∈ name :: location, '/' ∉ segment :=
      fun segment member => (named segment member).1.2
    have pieces : Text.splitOn '/' (name ++ location.flatMap ('/' :: ·)) = name :: location := by
      rw [Location.splitOn_flatMap name fun segment member =>
        free segment (List.mem_cons_of_mem _ member), Text.splitOn_of_free (free _ (by simp)),
        List.singleton_append]
    have whole : strip (name :: location) = name :: location := by
      obtain ⟨front, last, split⟩ :=
        (List.eq_nil_or_concat' (name :: location)).resolve_left (List.cons_ne_nil _ _)
      rw [split, strip_concat_of_solid (solid last (by rw [split]; simp))]
    have steps : ∀ start ∈ (starts (name :: location)).dropLast, endsInStep start = true := by
      intro start member
      rw [starts_eq_inits] at member
      have inside := (List.mem_inits _ _).mp (List.dropLast_subset _ member)
      rcases List.eq_nil_or_concat' start with rfl | ⟨front, last, rfl⟩
      · rfl
      · rw [endsInStep_concat, solid last (inside.subset (by simp))]
        rfl
    rw [Location.path_of_ne_nil (List.cons_ne_nil _ _), List.flatMap_cons, List.cons_append,
      parents_root, pieces, whole, List.filter_eq_self.mpr steps]

/-- The nearest parent of the path of an entry is the path of its directory. -/
theorem parent?_path {name : Text} (named : ∀ segment ∈ location ++ [name], IsEntryName segment) :
    parent? (Location.path (location ++ [name])) = some location.path := by
  rw [parent?, parents_path named, starts_concat, List.dropLast_concat, List.head?_map,
    List.head?_reverse, starts_eq_dropLast, List.getLast?_concat, Option.map_some]

/-- A slash behind the path of a location. -/
theorem join_path_nil (free : ∀ segment ∈ segments, '/' ∉ segment)
    (last : segments = [] ∨ ∃ front last, segments = front ++ [last] ∧ isVacuous last = false) :
    join (Location.path segments) [] = segments.flatMap ('/' :: ·) ++ ['/'] := by
  rcases last with rfl | ⟨front, last, rfl, solid⟩
  · rfl
  · have some : last ≠ [] := by
      rintro rfl
      cases solid
    obtain ⟨text, c, rfl⟩ := (List.eq_nil_or_concat' last).resolve_left some
    rw [Location.path_of_ne_nil (by simp), join_of_no_slash (by simp) _ rfl]
    simp only [List.flatMap_append, List.flatMap_singleton]
    rw [← List.cons_append, ← List.append_assoc, List.getLast?_concat]
    intro slash
    refine free (text ++ [c]) (by simp) ?_
    rw [Option.some.inj slash]
    simp

end Path

/-! ### Where they lead -/

namespace FileSystem

variable {files : FileSystem} {location place : Location} {segments : List Text} {path : Text}
  {content : Content}

/-- Segments that lead nowhere new. -/
theorem walk_of_vacuous (vacuous : ∀ segment ∈ segments, Path.isVacuous segment = true)
    (found : files.walk location segments = .ok place) : place = location := by
  induction segments generalizing location with
  | nil =>
    cases found
    rfl
  | cons segment segments ih =>
    obtain ⟨first, others⟩ := List.forall_mem_cons.mp vacuous
    obtain ⟨next, step, way⟩ := walk_cons_eq_ok_iff.mp found
    obtain ⟨-, rfl, -⟩ := step_eq_ok_iff.mp step
    rw [ih others way, target, if_pos first]

/-- **The parent of a path to a file** leads to the directory that the file lies in. -/
theorem IsTree.locate_parent? (tree : files.IsTree) (absolute : Path.isAbsolute path = true)
    (found : files.locate path = .ok place)
    (file : files.entry? place = some (.file content)) :
    ∃ parent directory name, Path.parent? path = some parent ∧
      files.locate (Path.join parent []) = .ok directory ∧ place = directory ++ [name] := by
  obtain ⟨rest, rfl⟩ := isAbsolute_eq_true_iff.mp absolute
  obtain ⟨segments, read, way⟩ := locate_eq_ok_iff.mp found
  obtain ⟨front, last, pieces⟩ :=
    (List.eq_nil_or_concat' _).resolve_left (Text.splitOn_ne_nil '/' rest)
  rw [eq_splitOn_of_segments? read, Text.splitOn_cons, pieces, ← List.cons_append,
    walk_append_eq_ok_iff] at way
  obtain ⟨directory, before, after⟩ := way
  obtain ⟨next, step, rest'⟩ := walk_cons_eq_ok_iff.mp after
  cases rest'
  obtain ⟨above, rfl, -⟩ := step_eq_ok_iff.mp step
  have named := tree.target_of_file above file
  have solid : Path.isVacuous last = false := by
    by_contra vacuous
    rw [target, if_pos (by simpa using vacuous)] at named
    simp at named
  have parent := Path.parent?_root pieces solid
  obtain ⟨⟨tail, split, vacuous⟩, ending⟩ := Path.exists_strip front
  generalize Path.strip front = steps at parent split ending
  subst split
  have free : ∀ segment ∈ steps, '/' ∉ segment := by
    intro segment member
    have inside : segment ∈ Text.splitOn '/' rest := by
      rw [pieces]
      simp [member]
    exact Text.not_mem_of_mem_splitOn inside
  refine ⟨_, directory, last, parent,
    locate_eq_ok_iff.mpr ⟨[] :: (steps ++ [[]]), ?_, ?_⟩, named⟩
  · -- the parent with a slash behind it is a start of the path
    obtain ⟨more, slash⟩ : ∃ more, (tail ++ [last]).flatMap ('/' :: ·) = '/' :: more := by
      cases tail with
      | nil => exact ⟨_, List.flatMap_singleton _ _⟩
      | cons segment tail => exact ⟨_, List.flatMap_cons⟩
    have text : '/' :: rest = (steps.flatMap ('/' :: ·) ++ ['/']) ++ more := by
      rw [← Location.flatMap_splitOn, pieces, List.append_assoc, List.flatMap_append, slash,
        List.append_assoc, List.singleton_append]
    rw [text] at read
    rw [Path.join_path_nil free ending, segments?_append (by simp) read, Text.splitOn_append,
      ← List.nil_append (List.flatMap _ _), Location.splitOn_flatMap [] free]
    rfl
  · have root : files.start (steps.flatMap ('/' :: ·) ++ ['/']) = [] := by
      rw [start, if_pos]
      cases steps <;> rfl
    rw [start, if_pos absolute, ← List.cons_append, walk_append_eq_ok_iff] at before
    obtain ⟨next, onward, stay⟩ := before
    obtain rfl := walk_of_vacuous vacuous stay
    rw [Path.join_path_nil free ending, root, ← List.cons_append]
    exact walk_append_eq_ok_iff.mpr ⟨directory, onward, walk_slashes (by simp) above⟩

/-- The names of a place are those of the start, and names on the way. -/
theorem mem_of_walk {name : Text} (way : files.walk location segments = .ok place)
    (member : name ∈ place) : name ∈ location ∨ name ∈ segments ∧ isName name = true := by
  induction segments generalizing location with
  | nil =>
    cases way
    exact Or.inl member
  | cons segment segments ih =>
    obtain ⟨next, step, way⟩ := walk_cons_eq_ok_iff.mp way
    obtain ⟨-, rfl, named⟩ := step_eq_ok_iff.mp step
    rcases ih way with before | ⟨later, isName⟩
    · unfold target at before
      split at before
      · exact Or.inl before
      · next solid =>
        split at before
        · exact Or.inl (List.dropLast_subset _ before)
        · next up =>
          rcases List.mem_append.mp before with before | here
          · exact Or.inl before
          · obtain rfl := List.mem_singleton.mp here
            exact Or.inr ⟨List.mem_cons_self, (named (by simpa using solid) up).1⟩
    · exact Or.inr ⟨List.mem_cons_of_mem _ later, isName⟩

theorem isEntryName_of_isName {name : Text} (isName : isName name = true) (free : '/' ∉ name) :
    Path.IsEntryName name := by
  have solid := isVacuous_of_isName isName
  simp only [Path.isVacuous, Bool.or_eq_false_iff, beq_eq_false_iff_ne] at solid
  exact ⟨⟨solid.1, free⟩, not_or.mpr ⟨solid.2, ne_up_of_isName isName⟩⟩

/-- Paths lead to locations of names without a slash. -/
theorem isName_of_locate
    (names : ∀ name ∈ files.start path, isName name = true ∧ '/' ∉ name)
    (found : files.locate path = .ok place) : ∀ name ∈ place, isName name = true ∧ '/' ∉ name := by
  obtain ⟨segments, read, way⟩ := locate_eq_ok_iff.mp found
  intro name member
  rcases mem_of_walk way member with before | ⟨within, isName⟩
  · exact names name before
  · rw [eq_splitOn_of_segments? read] at within
    exact ⟨isName, Text.not_mem_of_mem_splitOn within⟩

/-- **Paths lead to locations of names** that entries can have. -/
theorem isEntryName_of_locate (absolute : Path.isAbsolute path = true)
    (found : files.locate path = .ok place) : ∀ name ∈ place, Path.IsEntryName name := by
  have root : ∀ name ∈ files.start path, isName name = true ∧ '/' ∉ name := by
    rw [start, if_pos absolute]
    exact fun _ member => (List.not_mem_nil member).elim
  intro name member
  obtain ⟨isName, free⟩ := isName_of_locate root found name member
  exact isEntryName_of_isName isName free

/-- The segments of the path of a location are a walk along its names. -/
theorem walk_segments_path (read : segments? location.path = some segments)
    (free : ∀ name ∈ location, '/' ∉ name) (files : FileSystem) :
    files.walk (files.start location.path) segments = files.walk [] location := by
  rw [eq_splitOn_of_segments? read, start, if_pos (Location.isAbsolute_path location)]
  cases location with
  | nil => rfl
  | cons name location =>
    rw [Location.path_of_ne_nil (List.cons_ne_nil _ _), ← List.nil_append (List.flatMap _ _),
      Location.splitOn_flatMap [] free]
    rfl

/-- **The path of a location** leads nowhere else. -/
theorem locate_path (named : ∀ name ∈ location, Path.IsEntryName name)
    (found : files.locate location.path = .ok place) : place = location := by
  have free : ∀ name ∈ location, '/' ∉ name := fun name member => (named name member).1.2
  obtain ⟨segments, read, way⟩ := locate_eq_ok_iff.mp found
  rw [walk_segments_path read free] at way
  exact (walk_of_entryNames named way).1

/-- The path of a location is its own absolute form, whether or not there is anything. -/
theorem absolute_path (named : ∀ name ∈ location, Path.IsEntryName name) (files : FileSystem) :
    files.absolute location.path = location.path := by
  unfold absolute canonical?
  split
  · next place found => rw [locate_path named found, Option.getD_some]
  · rw [Option.getD_none, Path.join_of_isAbsolute (Location.isAbsolute_path location)]

end FileSystem

end IconComponents
