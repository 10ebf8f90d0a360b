/-
**Documents define nothing twice, and keep their values.**

A statement only adds nodes where there are none, moves a table that was only passed through to the
end, or lengthens a list of tables. So every path has at most one node, and a value that is there
stays. The settings of a document are then its nodes at the top, whatever their order is.

* `Change` — what happens to the nodes in one step; `changes_of_documentOf?` — statements change a
  document in such steps;
* `isSingle_of_read?` — every path of the document of a text has at most one node;
* `find?_of_documentOf?` — values stay;
* `lookup_settings` — a setting is the node of its name.
-/

import Mathlib.Data.List.Nodup
import Mathlib.Logic.Relation
import IconComponents.Toml.Reader

namespace IconComponents.Toml

open Relation (ReflTransGen)

namespace Document

variable {document more final : Document} {path location start : List Step} {kind : Kind}
  {key names : List Text} {value held : Value} {name : Text} {dotted : Bool}
  {statements : List Statement}

/-! ### Nodes -/

theorem find?_cons (other : List Step) (kind : Kind) (document : Document) (path : List Step) :
    find? ((other, kind) :: document) path =
      if path = other then some kind else document.find? path := by
  rw [find?, List.lookup_cons, find?]
  by_cases same : path = other
  · rw [if_pos same, same, beq_self_eq_true]
  · rw [if_neg same, beq_false_of_ne same]

theorem find?_append (document more : Document) (path : List Step) :
    find? (document ++ more) path = (document.find? path).or (more.find? path) := by
  induction document with
  | nil => rfl
  | cons node document ih =>
    obtain ⟨other, kind⟩ := node
    rw [List.cons_append, find?_cons, find?_cons]
    split
    · rfl
    · exact ih

theorem find?_append_of_some (found : document.find? path = some kind) (more : Document) :
    find? (document ++ more) path = some kind := by
  rw [find?_append, found, Option.some_or]

theorem find?_append_single (absent : document.find? path = none) :
    find? (document ++ [(path, kind)]) path = some kind := by
  rw [find?_append, absent, Option.none_or, find?_cons, if_pos rfl]

theorem find?_erase_of_ne (differs : path ≠ location) :
    (document.erase location).find? path = document.find? path := by
  induction document with
  | nil => rfl
  | cons node document ih =>
    obtain ⟨other, kind⟩ := node
    rw [erase, List.filter_cons]
    by_cases same : other = location
    · rw [if_neg (by simpa using same), find?_cons, if_neg (same ▸ differs)]
      exact ih
    · rw [if_pos (by simpa using same), find?_cons, find?_cons]
      exact congrArg _ ih

/-- Setting a path leaves the others alone. -/
theorem find?_set_of_ne (differs : path ≠ location) :
    (document.set location kind).find? path = document.find? path := by
  induction document with
  | nil => rfl
  | cons node document ih =>
    obtain ⟨other, old⟩ := node
    rw [set, List.map_cons]
    dsimp only
    by_cases same : other = location
    · rw [if_pos same, find?_cons, find?_cons, if_neg (same ▸ differs), if_neg (same ▸ differs)]
      exact ih
    · rw [if_neg same, find?_cons, find?_cons]
      exact congrArg _ ih

/-! ### Paths -/

/-- The paths of a document's nodes. -/
def paths (document : Document) : List (List Step) := document.map (·.1)

/-- Every path has at most one node. -/
def IsSingle (document : Document) : Prop := document.paths.Nodup

theorem find?_eq_none_iff : document.find? path = none ↔ path ∉ document.paths := by
  rw [find?, List.lookup_eq_none_iff, paths, List.mem_map]
  simp only [bne_iff_ne, Prod.exists, exists_and_right, exists_eq_right, Prod.forall, not_exists]
  exact ⟨fun free kind member => free path kind member rfl,
    fun free other kind member same => free kind (same ▸ member)⟩

theorem paths_set (document : Document) (path : List Step) (kind : Kind) :
    (document.set path kind).paths = document.paths := by
  rw [paths, set, List.map_map, paths]
  refine List.map_congr_left fun node _ => ?_
  dsimp only [Function.comp_apply]
  split <;> rfl

/-- A node is added where there is none. -/
theorem IsSingle.add (single : document.IsSingle) (free : path ∉ document.paths) (kind : Kind) :
    IsSingle (document ++ [(path, kind)]) := by
  rw [IsSingle, paths, List.map_append, List.map_cons, List.map_nil, ← List.concat_eq_append]
  exact List.Nodup.concat free single

theorem IsSingle.erase (single : document.IsSingle) (path : List Step) :
    IsSingle (document.erase path) ∧ path ∉ (document.erase path).paths := by
  refine ⟨single.sublist (List.filter_sublist.map _), fun member => ?_⟩
  obtain ⟨node, kept, rfl⟩ := List.mem_map.mp member
  simpa using (List.mem_filter.mp kept).2

/-! ### Changes -/

/-- What happens to the nodes of a document in one step: one is added where there is none, a table
that was only passed through moves to the end, or a list of tables grows by one. -/
inductive Change (document : Document) : Document → Prop where
  | add {path : List Step} (free : document.find? path = none) (kind : Kind) :
    Change document (document ++ [(path, kind)])
  | move {path : List Step} (passed : document.find? path = some (.table true false)) :
    Change document (document.erase path ++ [(path, .table false false)])
  | lengthen {path : List Step} {length : Nat} (listed : document.find? path = some (.tables length)) :
    Change document (document.set path (.tables (length + 1)))

/-- No change makes a second node for a path. -/
theorem IsSingle.change (single : document.IsSingle) (changed : Change document more) :
    more.IsSingle := by
  cases changed with
  | add free kind => exact single.add (find?_eq_none_iff.mp free) kind
  | @move path passed =>
    obtain ⟨left, free⟩ := single.erase path
    exact left.add free _
  | lengthen listed =>
    rw [IsSingle, paths_set]
    exact single

/-- No change takes a value away: what moves and what grows is no value. -/
theorem find?_of_change (found : document.find? path = some (.value held))
    (changed : Change document more) : more.find? path = some (.value held) := by
  cases changed with
  | add free kind => exact find?_append_of_some found _
  | move passed =>
    refine find?_append_of_some ((find?_erase_of_ne ?_).trans found) _
    rintro rfl
    rw [found] at passed
    cases passed
  | lengthen listed =>
    refine (find?_set_of_ne ?_).trans found
    rintro rfl
    rw [found] at listed
    cases listed

/-- Single names stay single while a document changes. -/
theorem IsSingle.changes (single : document.IsSingle) (changed : ReflTransGen Change document more) :
    more.IsSingle := by
  induction changed with
  | refl => exact single
  | tail _ changed ih => exact ih.change changed

/-- A value stays while a document changes. -/
theorem find?_of_changes (found : document.find? path = some (.value held))
    (changed : ReflTransGen Change document more) : more.find? path = some (.value held) := by
  induction changed with
  | refl => exact found
  | tail _ changed ih => exact find?_of_change ih changed

/-! ### Statements change a document -/

/-- Going down to a table is a run of changes. -/
theorem changes_of_descend? (led : document.descend? dotted names start = some (location, more)) :
    ReflTransGen Change document more := by
  induction names generalizing start document with
  | nil =>
    cases led
    exact .refl
  | cons name names ih =>
    rw [Document.descend?] at led
    split at led
    · next absent => exact .head (.add absent _) (ih led)
    · cases led
    · split at led
      · cases led
      · exact ih led
    · exact ih led

theorem changes_of_define? (defined : document.define? start key value = some more) :
    ReflTransGen Change document more := by
  simp only [Document.define?, Option.bind_eq_bind, Option.bind_eq_some_iff] at defined
  obtain ⟨name, -, ⟨table, between⟩, led, defined⟩ := defined
  split at defined
  · cases defined
  · split at defined
    · cases defined
    · next free =>
      cases defined
      exact .tail (changes_of_descend? led) (.add (Option.not_isSome_iff_eq_none.mp free) _)

theorem changes_of_open? (opened : document.open? key = some (location, more)) :
    ReflTransGen Change document more := by
  simp only [Document.open?, Option.bind_eq_bind, Option.bind_eq_some_iff] at opened
  obtain ⟨name, -, ⟨parent, between⟩, led, opened⟩ := opened
  split at opened
  · next absent =>
    cases opened
    exact .tail (changes_of_descend? led) (.add absent _)
  · next passed =>
    cases opened
    exact .tail (changes_of_descend? led) (.move passed)
  · cases opened

theorem changes_of_append? (appended : document.append? key = some (location, more)) :
    ReflTransGen Change document more := by
  simp only [Document.append?, Option.bind_eq_bind, Option.bind_eq_some_iff] at appended
  obtain ⟨name, -, ⟨parent, between⟩, led, appended⟩ := appended
  split at appended
  · next absent =>
    cases appended
    exact .tail (changes_of_descend? led) (.add absent _)
  · next listed =>
    cases appended
    exact .tail (changes_of_descend? led) (.lengthen listed)
  · cases appended

/-- **Statements change a document step by step.** -/
theorem changes_of_documentOf? (made : documentOf? statements start document = some final) :
    ReflTransGen Change document final := by
  induction statements generalizing start document with
  | nil =>
    cases made
    exact .refl
  | cons statement statements ih =>
    cases statement with
    | blank => exact ih made
    | define key value =>
      obtain ⟨between, defined, made⟩ := Option.bind_eq_some_iff.mp made
      exact (changes_of_define? defined).trans (ih made)
    | table key =>
      obtain ⟨⟨_, between⟩, opened, made⟩ := Option.bind_eq_some_iff.mp made
      exact (changes_of_open? opened).trans (ih made)
    | element key =>
      obtain ⟨⟨_, between⟩, appended, made⟩ := Option.bind_eq_some_iff.mp made
      exact (changes_of_append? appended).trans (ih made)

/-- **A value stays**, whatever the statements behind it say. -/
theorem find?_of_documentOf? (found : document.find? path = some (.value held))
    (made : documentOf? statements start document = some final) :
    final.find? path = some (.value held) :=
  find?_of_changes found (changes_of_documentOf? made)

/-- **The document of a text defines nothing twice.** -/
theorem isSingle_of_read? {text : Text} (read : Toml.read? text = some document) :
    document.IsSingle := by
  obtain ⟨statements, -, made⟩ := Option.bind_eq_some_iff.mp read
  have empty : IsSingle [] := List.nodup_nil
  exact empty.changes (changes_of_documentOf? made)

/-! ### Settings -/

theorem settings_cons (location : List Step) (kind : Kind) (document : Document) :
    settings ((location, kind) :: document) = settings document ∧
        (∀ name, location ≠ [.key name]) ∨
      ∃ name, location = [.key name] ∧
        settings ((location, kind) :: document) = (name, kind) :: settings document := by
  match location with
  | [] => exact Or.inl ⟨rfl, fun _ same => by cases same⟩
  | [.key name] => exact Or.inr ⟨name, rfl, rfl⟩
  | .index _ :: _ => exact Or.inl ⟨rfl, fun _ same => by cases same⟩
  | .key _ :: _ :: _ => exact Or.inl ⟨rfl, fun _ same => by cases same⟩

/-- **A setting is the node of its name.** -/
theorem lookup_settings (document : Document) (name : Text) :
    document.settings.lookup name = document.find? [.key name] := by
  induction document with
  | nil => rfl
  | cons node document ih =>
    obtain ⟨location, kind⟩ := node
    rw [find?, List.lookup_cons]
    rcases settings_cons location kind document with ⟨skipped, deep⟩ | ⟨other, rfl, top⟩
    · rw [skipped, ih, beq_false_of_ne (deep name).symm]
      rfl
    · rw [top, List.lookup_cons, ih]
      by_cases same : name = other
      · rw [same, beq_self_eq_true, beq_self_eq_true]
      · rw [beq_false_of_ne same, beq_false_of_ne (by simpa using same)]
        rfl

/-- The settings are some of the paths, in their order. -/
theorem settings_sublist (document : Document) :
    (document.settings.map fun setting => [Step.key setting.1]).Sublist document.paths := by
  induction document with
  | nil => exact List.Sublist.refl _
  | cons node document ih =>
    obtain ⟨location, kind⟩ := node
    rcases settings_cons location kind document with ⟨skipped, -⟩ | ⟨name, rfl, top⟩
    · rw [skipped]
      exact ih.cons location
    · rw [top]
      exact ih.cons_cons [.key name]

/-- The names of settings are different. -/
theorem IsSingle.settings (single : document.IsSingle) :
    (document.settings.map (·.1)).Nodup := by
  have different := single.sublist (settings_sublist document)
  rw [← Function.comp_def (fun name => [Step.key name]), ← List.map_map] at different
  exact different.of_map

end Document

end IconComponents.Toml
