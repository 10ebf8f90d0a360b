/-
**Going up from a path.**

The parents of an absolute path are where it leads to go up from it, one step at a time: its nearest
parent comes first, and the others are the parents of that one. A step up leaves out the last
component and nothing else, so the paths above a path are its starts, one for each.

* `parents_of_parent?` — the parents of a path, one step at a time;
* `components_of_parent?` — what a step up leaves out;
* `IsAbove.eq_or_depth_lt`, `IsAbove.total` — the paths above a path are a chain;
* `isAbove_starts` — they are its starts.
-/

import Mathlib.Logic.Relation
import IconComponents.Proofs.FileSystem.Parents

namespace IconComponents.Path

variable {path place other start above rest : Text} {segments front : List Text}

/-! ### Stripped segments -/

theorem strip_strip (segments : List Text) : strip (strip segments) = strip segments := by
  rcases (exists_strip segments).2 with empty | ⟨front, last, split, solid⟩
  · rw [empty]
    rfl
  · rw [split, strip_concat_of_solid solid]

theorem filter_strip (segments : List Text) :
    (strip segments).filter (!isVacuous ·) = segments.filter (!isVacuous ·) := by
  obtain ⟨⟨vacuous, split, all⟩, -⟩ := exists_strip segments
  have none : vacuous.filter (!isVacuous ·) = [] :=
    List.filter_eq_nil_iff.mpr fun segment member => by simp [all segment member]
  conv_rhs => rw [split, List.filter_append, none, List.append_nil]

/-- What is left out at the end adds no start that ends in a step. -/
theorem filter_starts_strip (segments : List Text) :
    (starts (strip segments)).filter endsInStep = (starts segments).filter endsInStep := by
  induction segments using List.reverseRecOn with
  | nil => rfl
  | append_singleton front segment ih =>
    cases vacuous : isVacuous segment with
    | true =>
      rw [strip_concat_of_vacuous vacuous, starts_concat, List.filter_append, List.filter_singleton,
        endsInStep_concat, vacuous, ih]
      exact (List.append_nil _).symm
    | false => rw [strip_concat_of_solid vacuous]

theorem endsInStep_strip (segments : List Text) : endsInStep (strip segments) = true := by
  rcases (exists_strip segments).2 with empty | ⟨front, last, split, solid⟩
  · rw [empty]
    rfl
  · rw [split, endsInStep_concat, solid]
    rfl

/-- The segments of an absolute path that is spelled by a list of segments. -/
theorem exists_rest_of_path (free : ∀ segment ∈ segments, '/' ∉ segment) :
    ∃ rest, Location.path segments = '/' :: rest ∧
      strip (Text.splitOn '/' rest) = strip segments := by
  cases segments with
  | nil => exact ⟨[], rfl, rfl⟩
  | cons segment segments =>
    refine ⟨segment ++ segments.flatMap ('/' :: ·),
      Location.path_of_ne_nil (List.cons_ne_nil _ _), ?_⟩
    rw [Location.splitOn_flatMap _ fun other member => free other (List.mem_cons_of_mem _ member),
      Text.splitOn_of_free (free segment List.mem_cons_self), List.singleton_append]

theorem free_of_mem_strip {segment : Text}
    (member : segment ∈ strip front) (free : ∀ segment ∈ front, '/' ∉ segment) : '/' ∉ segment := by
  obtain ⟨⟨vacuous, split, -⟩, -⟩ := exists_strip front
  exact free segment (by rw [split]; exact List.mem_append_left _ member)

/-! ### One step -/

theorem components_root (rest : Text) : components ('/' :: rest) =
    .root :: ((strip (Text.splitOn '/' rest)).filter (!isVacuous ·)).map Component.ofSegment := by
  rw [filter_strip]
  rfl

/-- An absolute path is the root, or it goes on with a last step below a path that is its nearest
parent. -/
theorem root_or_step (absolute : isAbsolute path = true) :
    (parents path = [] ∧ components path = [.root]) ∨
      ∃ above step, isAbsolute above = true ∧ parents path = above :: parents above ∧
        components path = components above ++ [step] := by
  obtain ⟨rest, rfl⟩ := FileSystem.isAbsolute_eq_true_iff.mp absolute
  rw [parents_root, components_root]
  rcases (exists_strip (Text.splitOn '/' rest)).2 with empty | ⟨front, last, split, solid⟩
  · rw [empty]
    exact Or.inl ⟨rfl, rfl⟩
  · have free : ∀ segment ∈ front, '/' ∉ segment := by
      intro segment member
      have kept : segment ∈ strip (Text.splitOn '/' rest) := by
        rw [split]
        exact List.mem_append_left _ member
      exact free_of_mem_strip kept fun _ => Text.not_mem_of_mem_splitOn
    obtain ⟨upper, spelled, stripped⟩ :=
      exists_rest_of_path fun _ member => free_of_mem_strip member free
    rw [strip_strip] at stripped
    refine Or.inr ⟨Location.path (strip front), Component.ofSegment last,
      Location.isAbsolute_path _, ?_, ?_⟩
    · have nearest : (starts (strip front)).filter endsInStep =
          (starts (strip front)).dropLast.filter endsInStep ++ [strip front] := by
        conv_lhs => rw [starts_eq_dropLast, List.filter_append, List.filter_singleton,
          endsInStep_strip]
        rfl
      rw [split, starts_concat, List.dropLast_concat, ← filter_starts_strip, nearest,
        List.reverse_append, List.reverse_singleton, List.singleton_append, List.map_cons, spelled,
        parents_root, stripped]
    · rw [spelled, components_root, stripped, filter_strip front, split, List.filter_append,
        List.filter_singleton, solid, List.map_append]
      rfl

/-- **The parents of a path** are its nearest parent and the parents of that one. -/
theorem parents_of_parent? (absolute : isAbsolute path = true) (up : parent? path = some above) :
    parents path = above :: parents above := by
  rcases root_or_step absolute with ⟨none, -⟩ | ⟨nearest, step, -, parents, -⟩
  · rw [parent?, none] at up
    cases up
  · rw [parent?, parents] at up
    cases up
    exact parents

/-- **A step up** leaves out the last component. -/
theorem components_of_parent? (absolute : isAbsolute path = true)
    (up : parent? path = some above) : ∃ step, components path = components above ++ [step] := by
  rcases root_or_step absolute with ⟨none, -⟩ | ⟨nearest, step, -, parents, split⟩
  · rw [parent?, none] at up
    cases up
  · rw [parent?, parents] at up
    cases up
    exact ⟨step, split⟩

/-- A path with nothing above it is the root. -/
theorem components_of_root (absolute : isAbsolute path = true) (top : parent? path = none) :
    components path = [.root] := by
  rcases root_or_step absolute with ⟨-, single⟩ | ⟨nearest, step, -, parents, -⟩
  · exact single
  · rw [parent?, parents] at top
    cases top

theorem isAbsolute_of_parent? (absolute : isAbsolute path = true)
    (up : parent? path = some above) : isAbsolute above = true :=
  isAbsolute_of_mem_parents absolute (List.mem_of_mem_head? up)

/-! ### Any number of steps -/

/-- How deep a path is. -/
def depth (path : Text) : Nat := (components path).length

/-- A path is above another one if it is reached by going up from it, by any number of steps. -/
def IsAbove (place path : Text) : Prop :=
  Relation.ReflTransGen (fun lower upper => parent? lower = some upper) path place

theorem IsAbove.refl (path : Text) : IsAbove path path := Relation.ReflTransGen.refl

theorem IsAbove.of_parent? (up : parent? path = some above) (reached : IsAbove place above) :
    IsAbove place path := reached.head up

/-- A path above another one is that path, or above its parent. -/
theorem IsAbove.eq_or_above (reached : IsAbove place path) :
    place = path ∨ ∃ above, parent? path = some above ∧ IsAbove place above := by
  rcases Relation.ReflTransGen.cases_head reached with same | ⟨above, up, later⟩
  · exact Or.inl same.symm
  · exact Or.inr ⟨above, up, later⟩

theorem IsAbove.isAbsolute (reached : IsAbove place path) (absolute : isAbsolute path = true) :
    Path.isAbsolute place = true := by
  induction reached with
  | refl => exact absolute
  | tail _ up ih => exact isAbsolute_of_parent? ih up

/-- What is above a path is one of its starts. -/
theorem IsAbove.components (reached : IsAbove place path) (absolute : Path.isAbsolute path = true) :
    Path.components place <+: Path.components path := by
  induction reached with
  | refl => exact List.prefix_refl _
  | tail below up ih =>
    obtain ⟨step, split⟩ := components_of_parent? (IsAbove.isAbsolute below absolute) up
    exact (split ▸ List.prefix_append _ _ : _ <+: _).trans ih

/-- A path is one deeper than its parent. -/
theorem depth_of_parent? (absolute : isAbsolute path = true) (up : parent? path = some above) :
    depth path = depth above + 1 := by
  obtain ⟨step, split⟩ := components_of_parent? absolute up
  rw [depth, split, List.length_append]
  rfl

theorem IsAbove.depth_le (reached : IsAbove place path) (absolute : Path.isAbsolute path = true) :
    depth place ≤ depth path := (reached.components absolute).length_le

/-- **A step up is a step out**: only the path itself is as deep as it is. -/
theorem IsAbove.eq_or_depth_lt (reached : IsAbove place path)
    (absolute : Path.isAbsolute path = true) : place = path ∨ depth place < depth path := by
  rcases reached.eq_or_above with same | ⟨above, up, later⟩
  · exact Or.inl same
  · have bound := later.depth_le (isAbsolute_of_parent? absolute up)
    have step := depth_of_parent? absolute up
    exact Or.inr (by omega)

/-- **The paths above a path are a chain.** -/
theorem IsAbove.total (first : IsAbove place path) (second : IsAbove other path) :
    IsAbove other place ∨ IsAbove place other :=
  Relation.ReflTransGen.total_of_right_unique
    (fun _ _ _ up up' => Option.some.inj (up.symm.trans up')) first second

/-- There is one path of each depth above a path. -/
theorem IsAbove.eq_of_depth (absolute : Path.isAbsolute path = true)
    (first : IsAbove place path) (second : IsAbove other path) (same : depth place = depth other) :
    place = other := by
  rcases first.total second with upper | upper
  · rcases upper.eq_or_depth_lt (first.isAbsolute absolute) with equal | less
    · exact equal.symm
    · omega
  · rcases upper.eq_or_depth_lt (second.isAbsolute absolute) with equal | less
    · exact equal
    · omega

/-- Every start of a path, from the root on, is reached by going up. -/
theorem exists_isAbove {steps : List Component} (absolute : isAbsolute path = true)
    (nonempty : steps ≠ []) (inside : steps <+: components path) :
    ∃ place, IsAbove place path ∧ components place = steps := by
  induction deep : depth path generalizing path with
  | zero =>
    rw [depth, List.length_eq_zero_iff] at deep
    rw [deep] at inside
    exact absurd (List.prefix_nil.mp inside) nonempty
  | succ n ih =>
    by_cases whole : steps = components path
    · exact ⟨path, .refl path, whole.symm⟩
    · cases up : parent? path with
      | none =>
        rw [components_of_root absolute up, List.prefix_cons_iff] at inside
        rcases inside with rfl | ⟨tail, rfl, short⟩
        · exact absurd rfl nonempty
        · rw [List.prefix_nil.mp short, components_of_root absolute up] at whole
          exact absurd rfl whole
      | some above =>
        obtain ⟨step, split⟩ := components_of_parent? absolute up
        rw [split] at inside whole
        have shorter := (List.prefix_concat_iff.mp inside).resolve_left whole
        have deep' := depth_of_parent? absolute up
        obtain ⟨place, reached, spelled⟩ :=
          ih (isAbsolute_of_parent? absolute up) shorter (by omega)
        exact ⟨place, .of_parent? up reached, spelled⟩

/-- **The paths above an absolute path are its starts**, each of them once. -/
theorem isAbove_starts (absolute : isAbsolute path = true) (steps : List Component) :
    (∃! place, IsAbove place path ∧ components place = steps) ↔
      steps ≠ [] ∧ steps <+: components path := by
  constructor
  · rintro ⟨place, ⟨reached, rfl⟩, -⟩
    refine ⟨?_, reached.components absolute⟩
    obtain ⟨rest, rfl⟩ := FileSystem.isAbsolute_eq_true_iff.mp (reached.isAbsolute absolute)
    rw [components_root]
    exact List.cons_ne_nil _ _
  · rintro ⟨nonempty, inside⟩
    obtain ⟨place, reached, spelled⟩ := exists_isAbove absolute nonempty inside
    refine ⟨place, ⟨reached, spelled⟩, fun other ⟨reached', spelled'⟩ => ?_⟩
    refine IsAbove.eq_of_depth absolute reached' reached ?_
    rw [depth, depth, spelled, spelled']

end IconComponents.Path
