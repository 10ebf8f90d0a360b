/-
**The upward search from any directory.**

The search looks for a file of a relative name, with or without directories in it, in a directory and
then in the directories above it, and stops at the first that has one. `Climbs` is that loop, round
by round.

* `climbs_findConfig?` — the loop ends from every absolute path, with what `findConfig?` gives;
* `Climbs.nearest`, `Climbs.missing` — what every round keeps: no directory passed so far has a file;
* `findConfig?_nearest` — what is found lies in the deepest directory that has a file, and nothing is
  found exactly if none has one.
-/

import IconComponents.Config.Load
import IconComponents.Proofs.Path.Above

namespace IconComponents

open IconComponents.Path

variable {files : FileSystem} {start place above name path : Text} {found : Option Text}

/-- Seen from a directory, a name leads to a file. A directory of that name does not count. -/
def FileSystem.HasFile (files : FileSystem) (name directory : Text) : Prop :=
  ∃ content, files.find? (join directory name) = some (.file content)

theorem FileSystem.hasFile_iff :
    files.HasFile name place ↔ files.isFile (join place name) = true := by
  rw [isFile, read?, HasFile]
  rcases files.find? (join place name) with _ | _ | content <;> simp

namespace Config

/-- The rounds of the search from a directory, and what they end with: the directory has a file, or
it has none and the search goes on above, if there is a directory above. -/
inductive Climbs (files : FileSystem) (name : Text) : Text → Option Text → Prop
  | here {place : Text} (file : files.HasFile name place) :
      Climbs files name place (some (join place name))
  | up {place above : Text} {found : Option Text} (none : ¬ files.HasFile name place)
      (upper : parent? place = some above) (later : Climbs files name above found) :
      Climbs files name place found
  | top {place : Text} (none : ¬ files.HasFile name place) (last : parent? place = Option.none) :
      Climbs files name place Option.none

/-! ### The loop -/

/-- The search looks into a directory and those above it, in this order. -/
theorem findConfig?_of_relative (relative : isAbsolute name = false) :
    findConfig? files start name =
      ((start :: parents start).map fun place => join place name).find? files.isFile := by
  rw [findConfig?, relative, if_neg Bool.false_ne_true]

/-- **The loop ends**: every round leaves one directory less above. -/
theorem climbs_findConfig? (relative : isAbsolute name = false) (absolute : isAbsolute start = true) :
    Climbs files name start (findConfig? files start name) := by
  rw [findConfig?_of_relative relative]
  induction above : parents start generalizing start with
  | nil =>
    rw [List.map_singleton, List.find?_singleton]
    split
    · next file => exact .here (FileSystem.hasFile_iff.mpr file)
    · next none => exact .top (mt FileSystem.hasFile_iff.mp none) (by rw [parent?, above]; rfl)
  | cons upper others ih =>
    rw [List.map_cons, List.find?_cons]
    split
    · next file => exact .here (FileSystem.hasFile_iff.mpr file)
    · next none =>
      have nearest : parent? start = some upper := by rw [parent?, above]; rfl
      have later : parents upper = others := by
        rw [parents_of_parent? absolute nearest] at above
        exact (List.cons.inj above).2
      refine .up ?_ nearest (ih (isAbsolute_of_parent? absolute nearest) later)
      rw [FileSystem.hasFile_iff, none]
      exact Bool.false_ne_true

/-- The search has one outcome only. -/
theorem Climbs.unique {other : Option Text} (first : Climbs files name start found)
    (second : Climbs files name start other) : found = other := by
  induction first generalizing other with
  | here file =>
    cases second with
    | here => rfl
    | up none => exact absurd file none
    | top none => exact absurd file none
  | up none upper _ ih =>
    cases second with
    | here file => exact absurd file none
    | up _ upper' later =>
      rw [upper] at upper'
      cases upper'
      exact ih later
    | top _ last =>
      rw [upper] at last
      cases last
  | top none last =>
    cases second with
    | here file => exact absurd file none
    | up _ upper =>
      rw [last] at upper
      cases upper
    | top => rfl

/-! ### What it ends with -/

/-- A path leads to the file in the deepest directory that has one, of a directory and those above
it. -/
def IsNearest (files : FileSystem) (name start path : Text) : Prop :=
  ∃ place, IsAbove place start ∧ path = join place name ∧ files.HasFile name place ∧
    ∀ other, IsAbove other start → depth place < depth other → ¬ files.HasFile name other

/-- What the search finds is nearest. -/
theorem Climbs.nearest (absolute : isAbsolute start = true)
    (climbs : Climbs files name start found) :
    ∀ path, found = some path → IsNearest files name start path := by
  induction climbs with
  | @here start file =>
    rintro path same
    cases same
    refine ⟨start, .refl start, rfl, file, fun other reached deeper => ?_⟩
    have bound := reached.depth_le absolute
    omega
  | @up start upper _ none nearest _ ih =>
    intro path same
    obtain ⟨place, reached, rfl, file, deepest⟩ :=
      ih (isAbsolute_of_parent? absolute nearest) path same
    refine ⟨place, .of_parent? nearest reached, rfl, file, fun other reached' deeper => ?_⟩
    rcases reached'.eq_or_above with rfl | ⟨upper', nearest', later⟩
    · exact none
    · rw [nearest] at nearest'
      cases nearest'
      exact deepest other later deeper
  | top => exact fun path same => nomatch same

/-- A search that finds nothing has missed nothing. -/
theorem Climbs.missing (climbs : Climbs files name start found) :
    found = none → ∀ place, IsAbove place start → ¬ files.HasFile name place := by
  induction climbs with
  | here => exact fun same => nomatch same
  | up none nearest _ ih =>
    intro same place reached
    rcases reached.eq_or_above with rfl | ⟨upper, nearest', later⟩
    · exact none
    · rw [nearest] at nearest'
      cases nearest'
      exact ih same place later
  | top none last =>
    intro _ place reached
    rcases reached.eq_or_above with rfl | ⟨upper, nearest, -⟩
    · exact none
    · rw [last] at nearest
      cases nearest

/-- There is one nearest file only. -/
theorem IsNearest.unique {other : Text} (absolute : isAbsolute start = true)
    (first : IsNearest files name start path) (second : IsNearest files name start other) :
    path = other := by
  obtain ⟨place, reached, rfl, file, deepest⟩ := first
  obtain ⟨place', reached', rfl, file', deepest'⟩ := second
  have same : depth place = depth place' := by
    have upper := mt (deepest place' reached') (not_not.mpr file')
    have lower := mt (deepest' place reached) (not_not.mpr file)
    omega
  rw [IsAbove.eq_of_depth absolute reached reached' same]

/-- **The search finds the nearest file.** From every absolute path and for every relative name the
loop ends; what is found is the file in the deepest directory that has one, and nothing is found
exactly if no directory has one. -/
theorem findConfig?_nearest (absolute : isAbsolute start = true) (relative : isAbsolute name = false)
    (files : FileSystem) :
    (∀ path, findConfig? files start name = some path ↔ IsNearest files name start path) ∧
      (findConfig? files start name = none ↔
        ∀ place, IsAbove place start → ¬ files.HasFile name place) ∧
      ∀ found, Climbs files name start found ↔ findConfig? files start name = found := by
  have climbs : Climbs files name start (findConfig? files start name) :=
    climbs_findConfig? relative absolute
  have missing : findConfig? files start name = none ↔
      ∀ place, IsAbove place start → ¬ files.HasFile name place := by
    refine ⟨climbs.missing, fun none => ?_⟩
    by_contra some
    obtain ⟨path, same⟩ := Option.ne_none_iff_exists'.mp some
    obtain ⟨place, reached, -, file, -⟩ := climbs.nearest absolute path same
    exact none place reached file
  refine ⟨fun path => ⟨climbs.nearest absolute path, fun nearest => ?_⟩, missing, fun found => ?_⟩
  · cases found : findConfig? files start name with
    | none =>
      obtain ⟨place, reached, -, file, -⟩ := nearest
      exact absurd file (missing.mp found place reached)
    | some other =>
      rw [IsNearest.unique absolute nearest (climbs.nearest absolute other found)]
  · constructor
    · exact climbs.unique
    · rintro rfl
      exact climbs

/-- A directory of the name is nearer than the file that is found. -/
theorem findConfig?_nearest_behind_directory :
    let files : FileSystem :=
      { entries := [(["app".toList], .directory), (["app".toList, "conf".toList], .directory),
          (["app".toList, "conf".toList, "icons.toml".toList], .file (.text "".toList)),
          (["app".toList, "src".toList], .directory),
          (["app".toList, "src".toList, "conf".toList], .directory),
          (["app".toList, "src".toList, "conf".toList, "icons.toml".toList], .directory)]
        current := [] }
    isAbsolute "/app/src".toList = true ∧ isAbsolute "conf/icons.toml".toList = false ∧
      IsNearest files "conf/icons.toml".toList "/app/src".toList
        "/app/conf/icons.toml".toList := by
  intro files
  have found : findConfig? files "/app/src".toList "conf/icons.toml".toList =
      some "/app/conf/icons.toml".toList := by decide +kernel
  exact ⟨rfl, rfl, ((findConfig?_nearest rfl rfl files).1 _).mp found⟩

end Config

end IconComponents
