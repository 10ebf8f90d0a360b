/-
**Icons with the same component name.**

Different file names can come to one component name. A run that does not generate components again
takes the first icon of each name and skips the others. A run that does generates them all, and the
last one stays.

* `generate_succeeds` — what a run that succeeds has generated and skipped;
* `generate_collisions` — no file is listed twice unless components are generated again, and the
  last component of a file stays;
* `twins_collide` — two icons of one name write the same file.
-/

import IconComponents.Proofs.Generation.Components

namespace IconComponents.Generation

open FileSystem

variable {engines : Engines} {config : Config} {files : FileSystem} {summary : Summary}
  {taken icons : List Text}

/-- **A run that succeeds** has generated the icons that are due and skipped the others. -/
theorem generate_succeeds (succeeded : (engines.generate config files).result = .ok summary) :
    ∃ icons template, selectIcons files config.entry = .ok icons ∧
      (icons ≠ [] → engines.loadTemplate files config.template = .ok template) ∧
      Succeeds config template icons (takenNames files config.output) files
        (engines.generate config files) := by
  rcases generate_cases engines config files with
    ⟨error, -, failed, -⟩ | ⟨selected, result, same⟩ |
      ⟨icons, template, -, selected, loaded, result, same⟩
  · rw [failed] at succeeded
    cases succeeded
  · obtain ⟨template⟩ := engines.nonempty
    refine ⟨[], template, selected, fun some => absurd rfl some, ⟨result, ?_⟩⟩
    rw [same]
    exact .done files
  · rcases generateAll_cases config template icons (takenNames files config.output) files with
      run | ⟨_, _, _, -, -, -, ⟨error, failed, -⟩, -⟩
    · refine ⟨icons, template, selected, fun _ => loaded, ⟨result.trans run.result, ?_⟩⟩
      rw [same]
      exact run.files
    · rw [result, failed] at succeeded
      cases succeeded

/-- With `rewrite` no icon is skipped. -/
theorem passed_eq_nil (again : config.rewrite = true) : passed engines config taken icons = [] := by
  induction icons generalizing taken with
  | nil => rfl
  | cons icon icons ih => rw [passed_cons_of_due (Or.inl again), ih]

/-- **Icons with the same component name.** A run that succeeds lists no file twice exactly if it
does not generate components again or no two icons have the same name; if it generates components
again, it generates all icons. A component is in its file unless the path of a later one leads
there, so with plain names it is there unless a later one has the same name. -/
theorem generate_collisions (succeeded : (engines.generate config files).result = .ok summary) :
    ∃ icons template, selectIcons files config.entry = .ok icons ∧
      (icons ≠ [] → engines.loadTemplate files config.template = .ok template) ∧
      summary.generated =
        (due engines config (takenNames files config.output) icons).map (componentFile engines config) ∧
      summary.skipped =
        (passed engines config (takenNames files config.output) icons).map
          (engines.componentName config) ∧
      (summary.generated.Nodup ↔
        config.rewrite = false ∨ (icons.map (engines.componentName config)).Nodup) ∧
      (config.rewrite = true →
        summary.generated = icons.map (componentFile engines config) ∧ summary.skipped = []) ∧
      ∀ before icon after,
        due engines config (takenNames files config.output) icons = before ++ icon :: after →
        ((∀ later ∈ after,
            (engines.generate config files).files.locate (componentFile engines config later) ≠
              (engines.generate config files).files.locate (componentFile engines config icon)) →
          Holds config template before icon files (engines.generate config files).files) ∧
        (files.IsTree → '/' ∉ config.leading → '/' ∉ config.trailing → '/' ∉ config.extension →
          engines.componentName config icon ∉ after.map (engines.componentName config) →
          Holds config template before icon files (engines.generate config files).files) := by
  obtain ⟨icons, template, selected, loaded, run⟩ := generate_succeeds succeeded
  obtain rfl := Except.ok.inj (succeeded.symm.trans run.result)
  refine ⟨icons, template, selected, loaded, rfl, rfl, ?_, fun again => ?_,
    fun before icon after split =>
      ⟨fun elsewhere => ?_, fun tree leading trailing extension free => ?_⟩⟩
  · rw [nodup_componentFile_iff]
    cases once : config.rewrite with
    | false => exact iff_of_true (due_nodup once) (Or.inl rfl)
    | true => simp [due_eq_self once]
  · simp only [due_eq_self again, passed_eq_nil again, List.map_nil, and_self]
  · have files' := run.files
    rw [split] at files'
    exact files'.holds elsewhere
  · have files' := run.files
    have single : ∀ other ∈ due engines config (takenNames files config.output) icons,
        '/' ∉ engines.componentName config other := by
      intro other _
      obtain ⟨title, plain, shape⟩ := componentName_shape engines config other
      simp only [shape, List.mem_append, not_or]
      exact ⟨leading, plain, trailing⟩
    rw [split] at files' single
    refine files'.holds fun later member => files'.locate_ne tree single extension (by simp)
      (by simp [member]) fun same => free (same ▸ List.mem_map_of_mem member)

/-- A project with two icons of one name, a small template, and nothing generated yet. -/
def twins : FileSystem :=
  { entries :=
      [(["icons".toList], .directory),
        (["icons".toList, "time-fast.svg".toList],
          .file (.text "<svg xmlns=\"http://www.w3.org/2000/svg\"/>".toList)),
        (["icons".toList, "time_fast.svg".toList],
          .file (.text "<svg xmlns=\"http://www.w3.org/2000/svg\" viewBox=\"0 0 8 8\"/>".toList)),
        (["icon.hbs".toList], .file (.text "<svg/>".toList))]
    current := [] }

/-- The configuration for the project. -/
def twinConfig (rewrite : Bool) : Config :=
  { Config.default with
    entry := "icons/*.svg".toList, output := "out".toList, rewrite := rewrite,
    template := some "icon.hbs".toList }

/-- Without `rewrite` the first twin has its component. -/
theorem twins_first_stays :
    ∃ template : Engines.standard.Template,
      Holds (twinConfig false) template [] "icons/time-fast.svg".toList twins
        (generate (twinConfig false) twins).files := by
  have succeeded : (generate (twinConfig false) twins).result =
      .ok ⟨["out/TimeFast.tsx".toList], ["TimeFast".toList]⟩ := by decide +kernel
  obtain ⟨icons, template, selected, -, -, -, -, -, holds⟩ := generate_collisions succeeded
  have icons_eq : selectIcons twins (twinConfig false).entry =
      .ok ["icons/time-fast.svg".toList, "icons/time_fast.svg".toList] := by decide +kernel
  obtain rfl := Except.ok.inj (selected.symm.trans icons_eq)
  refine ⟨template, (holds [] _ [] (by decide +kernel)).2 ?_ ?_ ?_ ?_ ?_⟩
  · exact isTree_of_entries (by decide)
  all_goals decide

/-- **With `rewrite` the second twin is written over the first one**, and their file is listed
twice. -/
theorem twins_collide :
    (generate (twinConfig true) twins).result =
        .ok ⟨["out/TimeFast.tsx".toList, "out/TimeFast.tsx".toList], []⟩ ∧
      (generate (twinConfig true) twins).files.read? "out/TimeFast.tsx".toList =
        some (.text ("<svg viewBox=\"0 0 8 8\" ".toList ++
          "xmlns=\"http://www.w3.org/2000/svg\"><defs/></svg>".toList)) := by
  unfold twins twinConfig
  repeat rw [String.toList_ofList]
  decide +kernel

end IconComponents.Generation
