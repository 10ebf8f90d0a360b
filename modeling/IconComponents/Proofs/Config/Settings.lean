/-
**Settings one by one.**

A configuration is a value for each setting, and a file gives the values of those that are among its
keys. Read in this way, a file's configuration has for each setting the value of its key, or else the
default, whatever the order of the keys is and whatever other keys there are.

* `Config.value?` — the value of a setting;
* `Setting.Fits` — the values that a setting takes;
* `ofNodes?_isSome_iff` — the nodes that give a configuration;
* `parse_eq_ok` — what a file's configuration is.
-/

import IconComponents.Config.Load
import IconComponents.Proofs.Toml.Document

namespace IconComponents

open Toml (Value Kind Document)

/-- The value that a node is, if it is one. -/
def Toml.Kind.value? : Kind → Option Value
  | .value held => some held
  | _ => none

namespace Config

variable {config more : Config} {setting other : Setting} {kind : Kind} {value : Value}
  {name text : Text} {nodes : List (Text × Kind)} {unknown : List Text} {document : Document}

/-! ### Values -/

/-- The key of a setting. -/
def Setting.key : Setting → Text
  | .entry => "entry".toList
  | .output => "output".toList
  | .rewrite => "rewrite".toList
  | .leading => "prefix".toList
  | .trailing => "postfix".toList
  | .extension => "extension".toList
  | .template => "template".toList

theorem lookup_settings_iff : settings.lookup name = some setting ↔ name = setting.key := by
  constructor
  · intro found
    obtain ⟨before, after, split, -⟩ := List.lookup_eq_some_iff.mp found
    have member : (name, setting) ∈ settings := by
      rw [split]
      exact List.mem_append_right _ List.mem_cons_self
    have keys : ∀ pair ∈ settings, pair.1 = pair.2.key := by decide
    exact keys _ member
  · rintro rfl
    cases setting <;> rfl

theorem Setting.key_injective : Function.Injective Setting.key := by
  intro setting other same
  have found := lookup_settings_iff.mpr (Eq.refl setting.key)
  rw [lookup_settings_iff.mpr same] at found
  exact (Option.some.inj found).symm

/-- Whether a value can be given to a setting: `rewrite` takes a yes or no, the others a text. -/
def Setting.Fits : Setting → Value → Prop
  | .rewrite, value => ∃ on, value = .flag on
  | _, value => ∃ words, value = .text words

/-- The value of a setting, if it has one. -/
def value? (config : Config) : Setting → Option Value
  | .entry => some (.text config.entry)
  | .output => some (.text config.output)
  | .rewrite => some (.flag config.rewrite)
  | .leading => some (.text config.leading)
  | .trailing => some (.text config.trailing)
  | .extension => some (.text config.extension)
  | .template => config.template.map .text

/-- A configuration is its path and the values of its settings. -/
theorem ext_value? (path : config.configPath = more.configPath)
    (values : ∀ setting, config.value? setting = more.value? setting) : config = more := by
  have entry := values .entry
  have output := values .output
  have rewrite := values .rewrite
  have leading := values .leading
  have trailing := values .trailing
  have extension := values .extension
  have template := values .template
  cases config
  cases more
  simp only [value?, Option.some.injEq, Value.text.injEq, Value.flag.injEq]
    at path entry output rewrite leading trailing extension template
  have template := Option.map_injective (fun _ _ => Value.text.inj) template
  simp only [Config.mk.injEq]
  exact ⟨path, entry, output, rewrite, leading, trailing, extension, template⟩

/-- **A setting takes the values that fit** and no other setting changes. -/
theorem set?_eq_some (set : config.set? setting kind = some more) :
    ∃ value, kind = .value value ∧ setting.Fits value ∧ more.configPath = config.configPath ∧
      more.value? setting = some value ∧
      ∀ other, other ≠ setting → more.value? other = config.value? other := by
  unfold set? at set
  split at set
  case h_8 => cases set
  all_goals
    cases set
    refine ⟨_, rfl, ⟨_, rfl⟩, rfl, rfl, fun other differs => ?_⟩
    cases other
  all_goals first | rfl | exact absurd rfl differs

/-- A value that fits can be set. -/
theorem set?_of_fits (config : Config) (fits : setting.Fits value) :
    ∃ more, config.set? setting (.value value) = some more := by
  cases setting
  all_goals
    obtain ⟨_, rfl⟩ := fits
    exact ⟨_, rfl⟩

/-! ### Nodes -/

/-- All nodes that are settings have values that fit. -/
def AreFit (nodes : List (Text × Kind)) : Prop :=
  ∀ (setting : Setting) (kind : Kind), (setting.key, kind) ∈ nodes →
    ∃ value, kind = .value value ∧ setting.Fits value

theorem areFit_cons_iff :
    AreFit ((name, kind) :: nodes) ↔
      (∀ setting : Setting, name = setting.key →
        ∃ value, kind = .value value ∧ setting.Fits value) ∧
        AreFit nodes := by
  constructor
  · intro fit
    exact ⟨fun setting same => fit setting kind (same ▸ List.mem_cons_self),
      fun setting other member => fit setting other (List.mem_cons_of_mem _ member)⟩
  · rintro ⟨first, others⟩ setting other member
    rcases List.mem_cons.mp member with same | member
    · cases same
      exact first setting rfl
    · exact others setting other member

/-- **Nodes give a configuration exactly if those that are settings fit.** -/
theorem ofNodes?_isSome_iff : (config.ofNodes? nodes).isSome = true ↔ AreFit nodes := by
  induction nodes generalizing config with
  | nil => exact iff_of_true rfl fun _ _ member => by cases member
  | cons node nodes ih =>
    obtain ⟨name, kind⟩ := node
    rw [ofNodes?, areFit_cons_iff]
    cases known : settings.lookup name with
    | none =>
      rw [Option.isSome_map, ih]
      refine ⟨fun others => ⟨fun setting same => ?_, others⟩, fun fit => fit.2⟩
      rw [lookup_settings_iff.mpr same] at known
      cases known
    | some setting =>
      obtain rfl := lookup_settings_iff.mp known
      rw [Option.isSome_bind]
      cases set : config.set? setting kind with
      | none =>
        refine iff_of_false (by simp) fun fit => ?_
        obtain ⟨value, rfl, fits⟩ := fit.1 setting rfl
        obtain ⟨more, given⟩ := set?_of_fits config fits
        rw [given] at set
        cases set
      | some between =>
        obtain ⟨value, rfl, fits, -⟩ := set?_eq_some set
        refine (@ih between).trans ⟨fun others => ⟨fun other same => ?_, others⟩, And.right⟩
        obtain rfl := Setting.key_injective same
        exact ⟨value, rfl, fits⟩

/-- **A setting has the value of its node**, or the one that it had before. -/
theorem value?_of_ofNodes? (different : (nodes.map (·.1)).Nodup)
    (made : config.ofNodes? nodes = some (more, unknown)) :
    more.configPath = config.configPath ∧ ∀ setting, more.value? setting =
      ((nodes.lookup setting.key).bind Kind.value?).or (config.value? setting) := by
  induction nodes generalizing config unknown with
  | nil =>
    cases made
    exact ⟨rfl, fun _ => rfl⟩
  | cons node nodes ih =>
    obtain ⟨name, kind⟩ := node
    rw [List.map_cons, List.nodup_cons] at different
    obtain ⟨once, different⟩ := different
    rw [ofNodes?] at made
    cases known : settings.lookup name with
    | none =>
      rw [known] at made
      obtain ⟨⟨_, others⟩, behind, same⟩ := Option.map_eq_some_iff.mp made
      cases same
      obtain ⟨path, values⟩ := ih different behind
      refine ⟨path, fun setting => ?_⟩
      have differs : setting.key ≠ name := fun same => by
        rw [lookup_settings_iff.mpr same.symm] at known
        cases known
      rw [values, List.lookup_cons, beq_false_of_ne differs]
    | some setting =>
      rw [known] at made
      obtain rfl := lookup_settings_iff.mp known
      obtain ⟨between, set, behind⟩ := Option.bind_eq_some_iff.mp made
      obtain ⟨value, rfl, -, kept, given, others⟩ := set?_eq_some set
      obtain ⟨path, values⟩ := ih different behind
      refine ⟨path.trans kept, fun other => ?_⟩
      rw [values, List.lookup_cons]
      by_cases same : other = setting
      · subst same
        have absent : nodes.lookup other.key = none := by
          rw [List.lookup_eq_none_iff]
          intro node member
          exact bne_iff_ne.mpr fun same => once (List.mem_map.mpr ⟨node, member, same.symm⟩)
        rw [absent, given, beq_self_eq_true]
        rfl
      · have differs : other.key ≠ setting.key := fun key => same (Setting.key_injective key)
        rw [others other same, beq_false_of_ne differs]

/-! ### Files -/

/-- The value that a document gives to a setting. -/
def givenBy (document : Document) (setting : Setting) : Option Value :=
  (document.find? [.key setting.key]).bind Kind.value?

/-- All settings of a document have values that fit. -/
def HasFitting (document : Document) : Prop :=
  ∀ (setting : Setting) (kind : Kind), document.find? [.key setting.key] = some kind →
    ∃ value, kind = .value value ∧ setting.Fits value

theorem lookup_of_mem (different : (nodes.map (·.1)).Nodup) (member : (name, kind) ∈ nodes) :
    nodes.lookup name = some kind := by
  obtain ⟨before, after, rfl⟩ := List.append_of_mem member
  rw [List.map_append, List.map_cons, List.nodup_append] at different
  refine List.lookup_eq_some_iff.mpr ⟨before, after, rfl, fun node ahead => ?_⟩
  exact bne_iff_ne.mpr fun same =>
    different.2.2 _ (List.mem_map_of_mem ahead) _ List.mem_cons_self same.symm

/-- A document with single names fits exactly if its settings do. -/
theorem hasFitting_iff (single : document.IsSingle) :
    HasFitting document ↔ AreFit document.settings := by
  have different := single.settings
  constructor
  · intro fit setting kind member
    refine fit setting kind ?_
    rw [← Document.lookup_settings]
    exact lookup_of_mem different member
  · intro fit setting kind found
    rw [← Document.lookup_settings] at found
    obtain ⟨before, after, split, -⟩ := List.lookup_eq_some_iff.mp found
    refine fit setting kind ?_
    rw [split]
    exact List.mem_append_right _ List.mem_cons_self

/-- **A file's configuration** has for each setting the value of its key, or else the default. -/
theorem parse_eq_ok (parsed : parse text = .ok (config, unknown)) :
    ∃ document, Toml.read? text = some document ∧ HasFitting document ∧
      config.configPath = none ∧ ∀ setting,
        config.value? setting = (givenBy document setting).or (default.value? setting) := by
  unfold parse at parsed
  split at parsed
  · next found =>
    cases parsed
    obtain ⟨document, read, made⟩ := Option.bind_eq_some_iff.mp found
    have single := Document.isSingle_of_read? read
    obtain ⟨path, values⟩ := value?_of_ofNodes? single.settings made
    refine ⟨document, read, (hasFitting_iff single).mpr ?_, path, fun setting => ?_⟩
    · exact ofNodes?_isSome_iff.mp (Option.isSome_iff_exists.mpr ⟨_, made⟩)
    · rw [values, Document.lookup_settings, givenBy]
  · cases parsed

/-- A document whose settings have values that fit is a configuration. -/
theorem parse_of_hasFitting (read : Toml.read? text = some document)
    (fit : HasFitting document) : ∃ config unknown, parse text = .ok (config, unknown) := by
  have fit := (hasFitting_iff (Document.isSingle_of_read? read)).mp fit
  obtain ⟨⟨config, unknown⟩, made⟩ : ∃ found, default.ofNodes? document.settings = some found :=
    Option.isSome_iff_exists.mp (ofNodes?_isSome_iff.mpr fit)
  refine ⟨config, unknown, ?_⟩
  rw [parse, read, Option.bind_some, made]

end Config

end IconComponents
