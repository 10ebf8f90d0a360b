/-
**Where paths lead when files come and go.**

A path is followed through directories, so where it leads depends on little: that the directories on
the way are directories, and that there is something at its end. Two comparisons of file systems
follow from this:

* `Grows` — nothing goes and no directory becomes a file; then every path that leads somewhere
  leads to the same place as before (`Grows.walk`, `Grows.locate`);
* `SameDirectories` — no directory comes; then a path to what was there before led there before
  (`walk_of_sameDirectories`).
-/

import Mathlib.Data.List.Basic
import IconComponents.FileSystem

namespace IconComponents.FileSystem

variable {files more : FileSystem} {location next place : Location} {segment : Text}
  {segments : List Text} {path : Text}

/-! ### Entries -/

theorem entry?_root : files.entry? [] = some .directory := if_pos rfl

theorem entry?_below (below : location ≠ []) :
    files.entry? location = files.entries.lookup location := if_neg below

/-! ### Steps -/

/-- Where a segment leads from a directory. -/
def target (location : Location) (segment : Text) : Location :=
  if Path.isVacuous segment then location
  else if segment = ['.', '.'] then location.dropLast
  else location ++ [segment]

theorem isVacuous_of_isName (named : isName segment = true) : Path.isVacuous segment = false := by
  simp only [isName, Bool.and_eq_true, Bool.not_eq_true'] at named
  exact named.1.1

theorem ne_up_of_isName (named : isName segment = true) : segment ≠ ['.', '.'] := by
  simp only [isName, Bool.and_eq_true, bne_iff_ne] at named
  exact named.1.2

theorem target_of_isName (named : isName segment = true) :
    target location segment = location ++ [segment] := by
  rw [target, isVacuous_of_isName named, if_neg Bool.false_ne_true, if_neg (ne_up_of_isName named)]

/-- **A step is made from a directory, and a name has to lead to something.** -/
theorem step_eq_ok_iff :
    files.step location segment = .ok next ↔
      files.entry? location = some .directory ∧ next = target location segment ∧
        (Path.isVacuous segment = false → segment ≠ ['.', '.'] →
          isName segment = true ∧ (files.entry? next).isSome = true) := by
  rw [step, target, isName]
  by_cases directory : files.entry? location = some .directory
  · rw [if_neg (not_not_intro directory)]
    cases vacuous : Path.isVacuous segment with
    | true =>
      rw [if_pos rfl, if_pos rfl]
      constructor
      · rintro ⟨⟩
        exact ⟨directory, rfl, fun solid => by cases solid⟩
      · rintro ⟨-, rfl, -⟩
        rfl
    | false =>
      simp only [Bool.false_eq_true, if_false]
      by_cases up : segment = ['.', '.']
      · rw [if_pos up, if_pos up]
        constructor
        · rintro ⟨⟩
          exact ⟨directory, rfl, fun _ solid => absurd up solid⟩
        · rintro ⟨-, rfl, -⟩
          rfl
      · rw [if_neg up, if_neg up]
        by_cases long : nameLimit < segment.byteLength
        · rw [if_pos long]
          refine iff_of_false (by simp) fun holds => ?_
          have short := (holds.2.2 trivial up).1
          simp only [Bool.and_eq_true, decide_eq_true_eq] at short
          exact absurd long (Nat.not_lt_of_le short.2)
        · rw [if_neg long]
          by_cases there : (files.entry? (location ++ [segment])).isSome = true
          · rw [if_pos there]
            constructor
            · rintro ⟨⟩
              exact ⟨directory, rfl, fun _ _ => ⟨by simp [up, Nat.le_of_not_lt long], there⟩⟩
            · rintro ⟨-, rfl, -⟩
              rfl
          · rw [if_neg there]
            refine iff_of_false (by simp) ?_
            rintro ⟨-, rfl, present⟩
            exact there (present trivial up).2
  · rw [if_pos directory]
    exact iff_of_false (by simp) fun holds => directory holds.1

theorem walk_cons_eq_ok_iff :
    files.walk location (segment :: segments) = .ok place ↔
      ∃ next, files.step location segment = .ok next ∧ files.walk next segments = .ok place := by
  rw [walk]
  cases files.step location segment with
  | ok next => simp
  | error error => simp

theorem walk_append_eq_ok_iff {ahead behind : List Text} :
    files.walk location (ahead ++ behind) = .ok place ↔
      ∃ next, files.walk location ahead = .ok next ∧ files.walk next behind = .ok place := by
  induction ahead generalizing location with
  | nil => simp [walk]
  | cons segment ahead ih =>
    simp only [List.cons_append, walk_cons_eq_ok_iff, ih]
    constructor
    · rintro ⟨first, step, next, way, rest⟩
      exact ⟨next, ⟨first, step, way⟩, rest⟩
    · rintro ⟨next, ⟨first, step, way⟩, rest⟩
      exact ⟨first, step, next, way, rest⟩

theorem locate_eq_ok_iff :
    files.locate path = .ok place ↔
      ∃ segments, segments? path = some segments ∧
        files.walk (files.start path) segments = .ok place := by
  rw [locate]
  cases segments? path with
  | none => simp
  | some segments => simp

theorem isDirectory_iff :
    files.isDirectory path = true ↔
      ∃ place, files.locate path = .ok place ∧ files.entry? place = some .directory := by
  rw [isDirectory, find?]
  cases files.locate path with
  | ok place => simp
  | error error => simp

/-! ### Files that come -/

/-- Nothing goes, and directories stay directories. -/
structure Grows (files more : FileSystem) : Prop where
  current : more.current = files.current
  present : ∀ location, (files.entry? location).isSome = true →
    (more.entry? location).isSome = true
  directory : ∀ location, files.entry? location = some .directory →
    more.entry? location = some .directory

theorem Grows.refl (files : FileSystem) : Grows files files :=
  ⟨rfl, fun _ there => there, fun _ there => there⟩

theorem Grows.trans {most : FileSystem} (first : Grows files more) (second : Grows more most) :
    Grows files most :=
  ⟨second.current.trans first.current,
    fun location there => second.present location (first.present location there),
    fun location there => second.directory location (first.directory location there)⟩

theorem Grows.start (grows : Grows files more) (path : Text) :
    more.start path = files.start path := by
  rw [FileSystem.start, FileSystem.start, grows.current]

/-- **Paths that lead somewhere lead to the same place when files come.** -/
theorem Grows.walk (grows : Grows files more)
    (found : files.walk location segments = .ok place) :
    more.walk location segments = .ok place := by
  induction segments generalizing location with
  | nil => exact found
  | cons segment segments ih =>
    obtain ⟨next, step, way⟩ := walk_cons_eq_ok_iff.mp found
    obtain ⟨directory, target, named⟩ := step_eq_ok_iff.mp step
    refine walk_cons_eq_ok_iff.mpr ⟨next, step_eq_ok_iff.mpr ⟨?_, target, ?_⟩, ih way⟩
    · exact grows.directory location directory
    · intro solid up
      exact ⟨(named solid up).1, grows.present next (named solid up).2⟩

theorem Grows.locate (grows : Grows files more) (found : files.locate path = .ok place) :
    more.locate path = .ok place := by
  obtain ⟨segments, read, way⟩ := locate_eq_ok_iff.mp found
  refine locate_eq_ok_iff.mpr ⟨segments, read, ?_⟩
  rw [grows.start]
  exact grows.walk way

/-- No directory comes. -/
def SameDirectories (files more : FileSystem) : Prop :=
  ∀ location, more.entry? location = some .directory → files.entry? location = some .directory

/-- A walk ends at the same place where the same directories are on the way. -/
theorem walk_of_sameDirectories (same : SameDirectories files more)
    (there : (files.entry? place).isSome = true)
    (found : more.walk location segments = .ok place) :
    files.walk location segments = .ok place := by
  induction segments generalizing location with
  | nil => exact found
  | cons segment segments ih =>
    obtain ⟨next, step, way⟩ := walk_cons_eq_ok_iff.mp found
    obtain ⟨directory, target, named⟩ := step_eq_ok_iff.mp step
    refine walk_cons_eq_ok_iff.mpr ⟨next, step_eq_ok_iff.mpr ⟨?_, target, ?_⟩, ih way⟩
    · exact same location directory
    · intro solid up
      refine ⟨(named solid up).1, ?_⟩
      cases segments with
      | nil =>
        cases way
        exact there
      | cons further segments =>
        obtain ⟨_, onward, -⟩ := walk_cons_eq_ok_iff.mp way
        rw [same next (step_eq_ok_iff.mp onward).1]
        rfl

/-- **A path to what was there before led there before**, if no directory came. -/
theorem locate_of_sameDirectories (grows : Grows files more) (same : SameDirectories files more)
    (there : (files.entry? place).isSome = true) (found : more.locate path = .ok place) :
    files.locate path = .ok place := by
  obtain ⟨segments, read, way⟩ := locate_eq_ok_iff.mp found
  rw [grows.start] at way
  exact locate_eq_ok_iff.mpr ⟨segments, read, walk_of_sameDirectories same there way⟩

end IconComponents.FileSystem
