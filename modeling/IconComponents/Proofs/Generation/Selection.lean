/-
**Which icons a run generates.**

A run takes its icons in order. An icon is due if components are generated again, or else if its name
is neither taken nor the name of an icon before it; the others are skipped.

* `selectIcons_eq_ok` — the icons are the matched files in order;
* `due`, `passed` — the icons of a list that are generated, and those that are skipped;
* `due_nodup` — without `rewrite` the icons that are due have different names;
* `componentFile_eq_iff` — components have the same file exactly if they have the same name.
-/

import Mathlib.Data.List.Infix
import Mathlib.Data.List.Nodup
import IconComponents.Proofs.FileSystem.Below
import IconComponents.Proofs.Generation.Icons
import IconComponents.Proofs.Name.TitleCase
import IconComponents.Proofs.Path.Order

namespace IconComponents.Generation

variable {engines : Engines} {config : Config} {taken earlier icons : List Text} {icon other : Text}

/-! ### Selected icons -/

/-- **The selected icons are the matched files**, in the order of their paths. -/
theorem selectIcons_eq_ok {files : FileSystem} {entry : Text}
    (selected : selectIcons files entry = .ok icons) :
    ∃ pattern, PathPattern.parse entry = .ok pattern ∧
      icons.Perm ((files.expand pattern).filter files.isFile) ∧ Path.IsOrdered icons := by
  unfold selectIcons at selected
  split at selected
  · next pattern parsed =>
    cases selected
    exact ⟨pattern, parsed, Path.sort_perm _, Path.sort_ordered _⟩
  · cases selected

/-- Selected icons are files. -/
theorem read?_of_selected {files : FileSystem} {entry : Text}
    (selected : selectIcons files entry = .ok icons) (member : icon ∈ icons) :
    ∃ content, files.read? icon = some content := by
  obtain ⟨pattern, -, matched, -⟩ := selectIcons_eq_ok selected
  exact Option.isSome_iff_exists.mp (List.mem_filter.mp (matched.mem_iff.mp member)).2

/-! ### Icons that are due -/

/-- An icon behind others is to be generated. -/
def IsDue (engines : Engines) (config : Config) (taken earlier : List Text) (icon : Text) : Prop :=
  config.rewrite = true ∨
    engines.componentName config icon ∉ taken ∧
      ∀ other ∈ earlier, engines.componentName config other ≠ engines.componentName config icon

instance (engines : Engines) (config : Config) (taken earlier : List Text) (icon : Text) :
    Decidable (IsDue engines config taken earlier icon) :=
  inferInstanceAs (Decidable (_ ∨ _))

/-- The icons of a list, each with those before it. -/
def withEarlier (icons : List Text) : List (Text × List Text) := icons.zip icons.inits

/-- The icons of a list that are generated; `taken` are the names that are there. -/
def due (engines : Engines) (config : Config) (taken icons : List Text) : List Text :=
  ((withEarlier icons).filter fun (icon, earlier) => IsDue engines config taken earlier icon).map (·.1)

/-- The icons of a list that are skipped. -/
def passed (engines : Engines) (config : Config) (taken icons : List Text) : List Text :=
  ((withEarlier icons).filter fun (icon, earlier) => ¬ IsDue engines config taken earlier icon).map
    (·.1)

theorem isDue_nil_iff :
    IsDue engines config taken [] icon ↔
      ¬ (!config.rewrite && taken.elem (engines.componentName config icon)) = true := by
  rw [IsDue, Bool.and_eq_true, Bool.not_eq_true', List.elem_iff]
  cases config.rewrite <;> simp

/-- The name of an icon that is due is taken from then on. -/
theorem isDue_cons_iff :
    IsDue engines config taken (icon :: earlier) other ↔
      IsDue engines config (engines.componentName config icon :: taken) earlier other := by
  rw [IsDue, IsDue, List.forall_mem_cons, List.mem_cons, not_or]
  constructor
  · rintro (again | ⟨free, differs, others⟩)
    · exact Or.inl again
    · exact Or.inr ⟨⟨Ne.symm differs, free⟩, others⟩
  · rintro (again | ⟨⟨differs, free⟩, others⟩)
    · exact Or.inl again
    · exact Or.inr ⟨free, Ne.symm differs, others⟩

/-- An icon that is skipped takes no name. -/
theorem isDue_cons_of_not_due (skipped : ¬ IsDue engines config taken [] icon) :
    IsDue engines config taken (icon :: earlier) other ↔ IsDue engines config taken earlier other := by
  rw [isDue_nil_iff, not_not, Bool.and_eq_true, List.elem_iff] at skipped
  rw [isDue_cons_iff, IsDue, IsDue, List.mem_cons, not_or]
  constructor
  · rintro (again | ⟨⟨-, free⟩, others⟩)
    · exact Or.inl again
    · exact Or.inr ⟨free, others⟩
  · rintro (again | ⟨free, others⟩)
    · exact Or.inl again
    · exact Or.inr ⟨⟨fun same => free (same ▸ skipped.2), free⟩, others⟩

theorem withEarlier_cons (icon : Text) (icons : List Text) :
    withEarlier (icon :: icons) =
      (icon, []) :: (withEarlier icons).map fun (other, earlier) => (other, icon :: earlier) := by
  rw [withEarlier, List.inits_cons, List.zip_cons_cons, List.zip_map_right]
  rfl

theorem due_cons_of_due (isDue : IsDue engines config taken [] icon) :
    due engines config taken (icon :: icons) =
      icon :: due engines config (engines.componentName config icon :: taken) icons := by
  rw [due, withEarlier_cons, List.filter_cons_of_pos (by simpa using isDue), List.map_cons,
    List.filter_map, List.map_map]
  simp only [Function.comp_def, isDue_cons_iff]
  rfl

theorem due_cons_of_not_due (skipped : ¬ IsDue engines config taken [] icon) :
    due engines config taken (icon :: icons) = due engines config taken icons := by
  rw [due, withEarlier_cons, List.filter_cons_of_neg (by simpa using skipped), List.filter_map,
    List.map_map]
  simp only [Function.comp_def, isDue_cons_of_not_due skipped]
  rfl

theorem passed_cons_of_due (isDue : IsDue engines config taken [] icon) :
    passed engines config taken (icon :: icons) =
      passed engines config (engines.componentName config icon :: taken) icons := by
  rw [passed, withEarlier_cons, List.filter_cons_of_neg (by simpa using isDue), List.filter_map,
    List.map_map]
  simp only [Function.comp_def, isDue_cons_iff]
  rfl

theorem passed_cons_of_not_due (skipped : ¬ IsDue engines config taken [] icon) :
    passed engines config taken (icon :: icons) = icon :: passed engines config taken icons := by
  rw [passed, withEarlier_cons, List.filter_cons_of_pos (by simpa using skipped), List.map_cons,
    List.filter_map, List.map_map]
  simp only [Function.comp_def, isDue_cons_of_not_due skipped]
  rfl

/-! ### Names -/

/-- The icons that are due are some of them, in their order. -/
theorem due_sublist (engines : Engines) (config : Config) (taken icons : List Text) :
    (due engines config taken icons).Sublist icons := by
  induction icons generalizing taken with
  | nil => exact List.Sublist.refl _
  | cons icon icons ih =>
    by_cases isDue : IsDue engines config taken [] icon
    · rw [due_cons_of_due isDue]
      exact (ih _).cons_cons icon
    · rw [due_cons_of_not_due isDue]
      exact (ih _).cons icon

/-- With `rewrite` all icons are due. -/
theorem due_eq_self (again : config.rewrite = true) : due engines config taken icons = icons := by
  induction icons generalizing taken with
  | nil => rfl
  | cons icon icons ih => rw [due_cons_of_due (Or.inl again), ih]

/-- Without rewriting no icon with a taken name is due. -/
theorem not_taken_of_mem_due (once : config.rewrite = false)
    (member : icon ∈ due engines config taken icons) :
    engines.componentName config icon ∉ taken := by
  obtain ⟨⟨other, earlier⟩, found, rfl⟩ := List.mem_map.mp member
  have isDue : IsDue engines config taken earlier other := by simpa using (List.mem_filter.mp found).2
  rcases isDue with again | ⟨free, -⟩
  · rw [once] at again
    cases again
  · exact free

/-- The name of an icon is taken, or an icon of that name is due. -/
theorem taken_or_due (taken : List Text) (member : icon ∈ icons) :
    engines.componentName config icon ∈ taken ∨
      ∃ other ∈ due engines config taken icons,
        engines.componentName config other = engines.componentName config icon := by
  induction icons generalizing taken with
  | nil => cases member
  | cons first icons ih =>
    by_cases isDue : IsDue engines config taken [] first
    · rw [due_cons_of_due isDue]
      rcases List.mem_cons.mp member with rfl | member
      · exact Or.inr ⟨icon, List.mem_cons_self, rfl⟩
      · rcases ih (engines.componentName config first :: taken) member with seen | ⟨other, later, same⟩
        · rcases List.mem_cons.mp seen with same | seen
          · exact Or.inr ⟨first, List.mem_cons_self, same.symm⟩
          · exact Or.inl seen
        · exact Or.inr ⟨other, List.mem_cons_of_mem _ later, same⟩
    · rw [due_cons_of_not_due isDue]
      rcases List.mem_cons.mp member with rfl | member
      · rw [isDue_nil_iff, not_not, Bool.and_eq_true, List.elem_iff] at isDue
        exact Or.inl isDue.2
      · exact ih taken member

/-- **Without `rewrite` the icons that are due have different names.** -/
theorem due_nodup (once : config.rewrite = false) :
    ((due engines config taken icons).map (engines.componentName config)).Nodup := by
  induction icons generalizing taken with
  | nil => exact List.nodup_nil
  | cons icon icons ih =>
    by_cases isDue : IsDue engines config taken [] icon
    · rw [due_cons_of_due isDue, List.map_cons, List.nodup_cons]
      refine ⟨fun member => ?_, ih⟩
      obtain ⟨other, found, same⟩ := List.mem_map.mp member
      exact not_taken_of_mem_due once found (same ▸ List.mem_cons_self)
    · rw [due_cons_of_not_due isDue]
      exact ih

/-! ### Files -/

theorem suffix_join (base path : Text) : path <:+ Path.join base path := by
  unfold Path.join
  split
  · split
    · exact List.suffix_refl path
    · exact List.suffix_append base path
  · exact (List.suffix_cons '/' path).trans (List.suffix_append base _)

/-- Different paths of one kind are different below a directory. -/
theorem join_inj {base path other : Text} (alike : Path.isAbsolute path = Path.isAbsolute other)
    (same : Path.join base path = Path.join base other) : path = other := by
  unfold Path.join at same
  rw [← alike] at same
  split at same
  · split at same
    · exact same
    · exact List.append_cancel_left same
  · exact (List.cons.inj (List.append_cancel_left same)).2

/-- A component name is a title without a slash between the affixes. -/
theorem componentName_shape (engines : Engines) (config : Config) (icon : Text) :
    ∃ title : Text, '/' ∉ title ∧
      engines.componentName config icon = config.leading ++ (title ++ config.trailing) := by
  refine ⟨_, fun member => ?_, List.append_assoc _ _ _⟩
  exact absurd (Name.isAlphanum_of_mem_titleCaseBy member) (by decide)

/-- A component whose path starts at the root has the shortest of all names, so no path below the
output ends in its path. -/
theorem componentFile_ne_of_isAbsolute
    (absolute : Path.isAbsolute (engines.componentName config icon ++ config.extension) = true)
    (relative : Path.isAbsolute (engines.componentName config other ++ config.extension) = false) :
    componentFile engines config icon ≠ componentFile engines config other := by
  intro same
  have within := suffix_join config.output (engines.componentName config other ++ config.extension)
  rw [componentFile, componentFile, componentPath, componentPath,
    Path.join_of_isAbsolute absolute] at same
  rw [← same] at within
  obtain ⟨title, free, shape⟩ := componentName_shape engines config icon
  obtain ⟨others, -, otherShape⟩ := componentName_shape engines config other
  rw [shape] at absolute within
  rw [otherShape] at relative within
  have bare : config.leading = [] := by
    by_contra some
    rw [List.append_assoc, FileSystem.isAbsolute_append some] at absolute relative
    rw [absolute] at relative
    cases relative
  rw [bare, List.nil_append] at absolute relative within
  have untitled : title = [] := by
    by_contra some
    rw [List.append_assoc, FileSystem.isAbsolute_append some,
      FileSystem.isAbsolute_eq_true_iff] at absolute
    obtain ⟨rest, rfl⟩ := absolute
    exact free List.mem_cons_self
  subst untitled
  have short := within.length_le
  simp only [List.nil_append, List.length_append] at short
  obtain rfl : others = [] := List.length_eq_zero_iff.mp (by omega)
  rw [absolute] at relative
  cases relative

/-- **Components have the same file exactly if they have the same name.** -/
theorem componentFile_eq_iff :
    componentFile engines config icon = componentFile engines config other ↔
      engines.componentName config icon = engines.componentName config other := by
  refine ⟨fun same => ?_, fun same => by rw [componentFile, same, componentFile]⟩
  cases first : Path.isAbsolute (engines.componentName config icon ++ config.extension) <;>
    cases second : Path.isAbsolute (engines.componentName config other ++ config.extension)
  · exact List.append_cancel_right (join_inj (first.trans second.symm) same)
  · exact absurd same.symm (componentFile_ne_of_isAbsolute second first)
  · exact absurd same (componentFile_ne_of_isAbsolute first second)
  · exact List.append_cancel_right (join_inj (first.trans second.symm) same)

/-- The files of components are different exactly if their names are. -/
theorem nodup_componentFile_iff :
    (icons.map (componentFile engines config)).Nodup ↔
      (icons.map (engines.componentName config)).Nodup := by
  refine (List.pairwise_map.trans ?_).trans List.pairwise_map.symm
  exact List.Pairwise.iff fun _ _ => not_congr componentFile_eq_iff

end IconComponents.Generation
