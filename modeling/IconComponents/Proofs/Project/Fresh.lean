/-
**A new project behaves like the defaults.**

A new project is two files. Making it writes both, and from the project or below it is loaded what
its file spells out, seen from the project, wherever no configuration file is nearer. Its template
is a copy of the built-in one, so a run with it is a run without a template.

* `holds_of_createProject` — both files are there;
* `Project.config` — the configuration of a new project;
* `load_of_holds` — where it is loaded;
* `generate_of_template` — templates that are read as the same make the same run;
* `load_createProject` — a new project.
-/

import IconComponents.Generation.Run
import IconComponents.Project.Starter
import IconComponents.Proofs.Config.Search
import IconComponents.Proofs.Config.Starter
import IconComponents.Proofs.FileSystem.Along
import IconComponents.Proofs.Template.Provenance

namespace IconComponents

open FileSystem

namespace Project

variable {files : FileSystem} {project below parent : Location} {name path content root : Text}
  {home? : Option Text}

/-! ### Making a project -/

theorem create_eq_ok (done : (create files path content).result = .ok ()) :
    files.write? path (.text content) = some (create files path content).files := by
  unfold create at done ⊢
  split at done
  · next more written =>
    rw [written]
    rfl
  · cases done

/-- A file that is missing is written, and its directory is made before. -/
theorem createMissing_eq_ok (absent : files.pathExists path = false) {above : Text}
    (parent : Path.parent? path = some above)
    (done : (createMissing files path content).result = .ok ()) :
    ∃ opened, files.makeDirectories above = (true, opened) ∧
      opened.write? path (.text content) = some (createMissing files path content).files := by
  unfold createMissing at done ⊢
  rw [absent, if_neg Bool.false_ne_true, parent] at done ⊢
  simp only at done ⊢
  split at done
  · cases done
  · next opened made =>
    rw [made]
    exact ⟨opened, rfl, create_eq_ok done⟩

/-- A place below a location is not on the way to it. -/
theorem not_prefix_of_below {names : List Text} (some : names ≠ []) :
    ¬ parent ++ names <+: parent := fun inside => by
  have shorter := inside.length_le
  have longer := List.length_pos_of_ne_nil some
  rw [List.length_append] at shorter
  omega

/-- **A missing file is there afterwards**, and all that comes besides is on the way to it. -/
theorem createMissing_holds (tree : files.IsTree)
    (named : ∀ segment ∈ parent ++ [name], Path.IsEntryName segment)
    (absent : files.pathExists (Location.path (parent ++ [name])) = false)
    (done : (createMissing files (Location.path (parent ++ [name])) content).result = .ok ()) :
    let more := (createMissing files (Location.path (parent ++ [name])) content).files
    more.IsTree ∧ GrowsAlong (parent ++ [name]) files more ∧
      more.Holds (parent ++ [name]) content := by
  obtain ⟨opened, made, written⟩ := createMissing_eq_ok absent (Path.parent?_path named) done
  obtain ⟨inner, -⟩ := List.forall_mem_append.mp named
  obtain ⟨openedTree, opens⟩ := isTree_growsAlong_of_made tree inner made
  have missing := opens.not_pathExists tree openedTree named
    (not_prefix_of_below (List.cons_ne_nil _ _)) absent
  obtain ⟨grows, led, file⟩ := growsAlong_write? openedTree named missing written
  refine ⟨write?_isTree openedTree written, ⟨fun other entry there => ?_, fun other there => ?_⟩,
    led, file⟩
  · exact grows.kept other entry (opens.kept other entry there)
  · rcases grows.new other there with before | onWay
    · exact (opens.new other before).imp_right fun start =>
        start.trans (List.prefix_append _ _)
    · exact Or.inr onWay

/-- Both files are made one after the other. -/
theorem createProject_eq_ok (done : (createProject files root).result = .ok ()) :
    ∃ opened, files.makeDirectories root = (true, opened) ∧
      let first := createMissing opened (Path.join root configName) starter.render
      let second := createMissing first.files (Path.join root templateName) builtinSource
      first.result = .ok () ∧ second.result = .ok () ∧
        (createProject files root).files = second.files := by
  unfold createProject at done ⊢
  split at done
  · cases done
  · next opened made =>
    rw [made]
    cases config : (createMissing opened (Path.join root configName) starter.render).result with
    | error error =>
      rw [Outcome.andThen_of_error config] at done
      cases done
    | ok value =>
      rw [Outcome.andThen_of_ok config] at done ⊢
      cases template : (createMissing (createMissing opened (Path.join root configName)
          starter.render).files (Path.join root templateName) builtinSource).result with
      | error error =>
        rw [Outcome.andThen_of_error template] at done
        cases done
      | ok value =>
        rw [Outcome.andThen_of_ok template]
        exact ⟨opened, rfl, config, template, rfl⟩

/-- The location of the configuration file. -/
def configPlace (project : Location) : Location := project ++ [configName]

/-- The location of the template. -/
def templatePlace (project : Location) : Location :=
  project ++ ["templates".toList] ++ ["icon.tsx.hbs".toList]

theorem join_configName (named : ∀ segment ∈ project, Path.IsEntryName segment) :
    Path.join (Location.path project) configName = Location.path (configPlace project) :=
  Location.join_path (fun segment member => (named segment member).1) (by decide)

theorem join_templateName (named : ∀ segment ∈ project, Path.IsEntryName segment) :
    Path.join (Location.path project) templateName = Location.path (templatePlace project) := by
  rw [Location.join_path_of_relative (fun segment member => (named segment member).1) (by decide),
    templatePlace, Location.path_append_singleton, List.flatMap_append, List.append_assoc]
  rfl

theorem isEntryName_configPlace (named : ∀ segment ∈ project, Path.IsEntryName segment) :
    ∀ segment ∈ configPlace project, Path.IsEntryName segment :=
  List.forall_mem_append.mpr ⟨named, by decide⟩

theorem isEntryName_templatePlace (named : ∀ segment ∈ project, Path.IsEntryName segment) :
    ∀ segment ∈ templatePlace project, Path.IsEntryName segment := by
  rw [templatePlace, List.append_assoc]
  exact List.forall_mem_append.mpr ⟨named, by decide⟩

theorem join_output (named : ∀ segment ∈ project, Path.IsEntryName segment) :
    Path.join project.path "src/icons".toList =
      Location.path (project ++ ["src".toList, "icons".toList]) := by
  rw [Location.join_path_of_relative (fun segment member => (named segment member).1) (by decide),
    Location.path, if_neg (by simp), List.flatMap_append]
  rfl

/-- **Both files are there** in a project that was made where neither was. -/
theorem holds_of_createProject {files : FileTree}
    (named : ∀ segment ∈ project, Path.IsEntryName segment)
    (noConfig : files.pathExists (Path.join project.path configName) = false)
    (noTemplate : files.pathExists (Path.join project.path templateName) = false)
    (done : (createProject files project.path).result = .ok ()) :
    let made := (createProject files project.path).files
    made.IsTree ∧ made.Holds (configPlace project) starter.render ∧
      made.Holds (templatePlace project) builtinSource := by
  obtain ⟨opened, made, first, second, same⟩ := createProject_eq_ok done
  rw [join_configName named] at first noConfig
  rw [join_templateName named] at noTemplate
  rw [join_configName named, join_templateName named] at second same
  have config := isEntryName_configPlace named
  have template := isEntryName_templatePlace named
  obtain ⟨openedTree, opens⟩ := isTree_growsAlong_of_made files.isTree named made
  have noConfig' := opens.not_pathExists files.isTree openedTree config
    (not_prefix_of_below (List.cons_ne_nil _ _)) noConfig
  have noTemplate' := opens.not_pathExists files.isTree openedTree template
    (by
      rw [templatePlace, List.append_assoc]
      exact not_prefix_of_below (by simp)) noTemplate
  obtain ⟨firstTree, grows, file⟩ := createMissing_holds openedTree config noConfig' first
  have aside : ¬ templatePlace project <+: configPlace project := by
    rw [templatePlace, configPlace, List.append_assoc, List.prefix_append_right_inj]
    decide
  obtain ⟨secondTree, grows', file'⟩ := createMissing_holds firstTree template
    (grows.not_pathExists openedTree firstTree template aside noTemplate') second
  rw [same]
  have stays := (grows'.kept _ _ file.file).trans file.file.symm
  exact ⟨secondTree, file.of_same firstTree secondTree config stays, file'⟩

/-! ### The configuration of a new project -/

/-- The configuration of a new project: its file and template, the icons and the components below
its directory, and the defaults besides. -/
def config (project : Location) : Config where
  configPath := some (Path.join project.path configName)
  entry := Path.join project.path "icons/**/*.svg".toList
  output := Path.join project.path "src/icons".toList
  rewrite := false
  leading := []
  trailing := []
  extension := ".tsx".toList
  template := some (Path.join project.path templateName)

/-- The configuration file spells out the defaults, and where everything is. -/
theorem parse_starter : Config.parse starter.render = .ok (starter.config, []) := by
  have once : starter.HasNoLaterMark :=
    ⟨Text.not_infix_of_contains (by decide), Text.not_infix_of_contains (by decide),
      Text.not_infix_of_contains (by decide)⟩
  rw [StarterConfig.render_eq, StarterConfig.filled_eq_self once]
  exact StarterConfig.parse_file_of_isPlain (by decide)

/-- **The file of a new project** is the configuration of the project. -/
theorem ofFile_starter (named : ∀ segment ∈ project, Path.IsEntryName segment)
    (file : files.Holds (configPlace project) starter.render) :
    (Config.ofFile files home? (configPlace project).path).result = .ok (config project) := by
  have root : Path.parent? (configPlace project).path = some project.path :=
    Path.parent?_path (isEntryName_configPlace named)
  have output : files.absolute (Path.join project.path starter.output) =
      Path.join project.path "src/icons".toList := by
    rw [show starter.output = "src/icons".toList from rfl, join_output named,
      absolute_path (List.forall_mem_append.mpr ⟨named, by decide⟩)]
  have template : resolveTemplate files home? project.path starter.template =
      Path.join project.path templateName := by
    have plain : expandHome home? starter.template = templateName := by
      cases home? <;> rfl
    rw [resolveTemplate, plain, join_templateName named,
      absolute_path (isEntryName_templatePlace named)]
  have entry : resolvePattern project.path starter.entry =
      Path.join project.path "icons/**/*.svg".toList :=
    if_neg (by decide)
  have self : files.absolute (configPlace project).path = Path.join project.path configName := by
    rw [absolute_path (isEntryName_configPlace named), join_configName named]
  have resolved : { starter.config.resolve files home? project.path with
      configPath := some (files.absolute (configPlace project).path) } = config project := by
    simp only [Config.resolve, StarterConfig.config, entry, output, template, Option.map_some, self]
    rfl
  rw [Config.ofFile_of_parse home? file.read? parse_starter root]
  exact congrArg Except.ok resolved

/-- **What is loaded in a new project**, from its directory or one below that has no nearer file. -/
theorem load_of_holds {files : Workplace} (current : files.current = project ++ below)
    (file : files.Holds (configPlace project) starter.render)
    (nearer : ∀ names, names ≠ [] → names <+: below →
      files.isFile (Path.join (Location.path (project ++ names)) configName) = false) :
    (Config.load files home? configName Overrides.none).result = .ok (config project) := by
  have named : ∀ segment ∈ project ++ below, Path.IsEntryName segment :=
    current ▸ files.here.isEntryName
  have nearer' : ∀ names, names ≠ [] → names <+: below →
      files.isFile (Location.path (project ++ names ++ [configName])) = false := by
    intro names some inside
    have between : project ++ names ⊆ project ++ below :=
      ((List.prefix_append_right_inj project).mpr inside).subset
    have absent := nearer names some inside
    rwa [join_configName fun segment member => named segment (between member)] at absent
  have found := Config.findConfig?_of_nearest files.here (by decide) current file.isFile nearer'
  have nearest : (Config.ofNearest files home? configName).result = .ok (config project) := by
    rw [Config.ofNearest, found]
    exact ofFile_starter (List.forall_mem_append.mp named).1 file
  rw [Config.load_of_nearest nearest]
  rfl

/-! ### The template of a new project -/

/-- A template that is given is read from its file. -/
theorem loadTemplate_of_read {engines : Engines} {path source : Text}
    (read : (files.read? path).bind Content.text? = some source) :
    engines.loadTemplate files (some path) = (engines.ofSource source).mapError .noSource := by
  simp only [Engines.loadTemplate, read]

/-- **The template of a new project** is the built-in one. -/
theorem loadTemplate_of_holds (engines : Engines)
    (named : ∀ segment ∈ project, Path.IsEntryName segment)
    (file : files.Holds (templatePlace project) builtinSource) :
    engines.loadTemplate files (config project).template = engines.loadTemplate files none := by
  rw [config, join_templateName named]
  exact loadTemplate_of_read file.read?

section Runs

variable {engines : Engines}

/-- Which template a configuration names has no influence behind the reading of it. -/
theorem generateAll_of_template (path? : Option Text) (settings : Config)
    (template : engines.Template) (icons taken : List Text) (files : FileSystem) :
    engines.generateAll { settings with template := path? } template icons taken files =
      engines.generateAll settings template icons taken files := by
  induction icons generalizing taken files with
  | nil => rfl
  | cons icon icons ih =>
    rw [Engines.generateAll, Engines.generateAll]
    simp only [ih]
    rfl

/-- **Templates that are read as the same** make the same run. -/
theorem generate_of_template {path? : Option Text} {settings : Config}
    (same : engines.loadTemplate files settings.template = engines.loadTemplate files path?) :
    engines.generate settings files =
      engines.generate { settings with template := path? } files := by
  have selected : ∀ icons, engines.generateSelected settings files icons =
      engines.generateSelected { settings with template := path? } files icons := by
    intro icons
    rw [Engines.generateSelected, Engines.generateSelected, same]
    simp only [generateAll_of_template]
  rw [Engines.generate, Engines.generate]
  simp only [selected]

end Runs

/-! ### A new project -/

/-- **A new project behaves like the defaults.** It is made where there is neither of its files.
Whatever comes later beside these files, and from wherever in the project or below it is loaded, as
long as no configuration file is nearer, its configuration has everything in its place below the
project and the defaults besides. Its template is the built-in one, whoever compiles it, and so all
that is ever generated with it is what is generated without it. -/
theorem load_createProject (files : FileTree) (later : Workplace)
    (noConfig : files.pathExists (Path.join project.path configName) = false)
    (noTemplate : files.pathExists (Path.join project.path templateName) = false)
    (done : (createProject files project.path).result = .ok ())
    (kept : ∀ place ∈ [configPlace project, templatePlace project],
      later.entry? place = (createProject files project.path).files.entry? place)
    (current : later.current = project ++ below)
    (nearer : ∀ names, names ≠ [] → names <+: below →
      later.isFile (Path.join (Location.path (project ++ names)) configName) = false) :
    (Config.load later home? configName Overrides.none).result = .ok (config project) ∧
      (∃ template, Template.builtin = .ok template ∧
        Engines.standard.loadTemplate later (config project).template = .ok template) ∧
      ∀ engines : Engines,
        engines.loadTemplate later (config project).template =
          engines.builtin.mapError .noSource ∧
        ∀ settings : Config, settings.template = (config project).template →
          engines.generate settings later =
            engines.generate { settings with template := none } later := by
  have named : ∀ segment ∈ project, Path.IsEntryName segment :=
    (List.forall_mem_append.mp (current ▸ later.here.isEntryName)).1
  obtain ⟨madeTree, configFile, templateFile⟩ :=
    holds_of_createProject named noConfig noTemplate done
  have configFile := configFile.of_same madeTree later.isTree (isEntryName_configPlace named)
    (kept _ (by simp))
  have templateFile := templateFile.of_same madeTree later.isTree (isEntryName_templatePlace named)
    (kept _ (by simp))
  have same (engines : Engines) := loadTemplate_of_holds engines named templateFile
  obtain ⟨template, builtin, -⟩ := exists_builtin
  refine ⟨load_of_holds current configFile nearer, ⟨template, builtin, ?_⟩,
    fun engines => ⟨same engines, fun settings its => generate_of_template (its ▸ same engines)⟩⟩
  exact (same .standard).trans (congrArg (Except.mapError GenerationError.noSource) builtin)

/-- A directory without a project. -/
def bare : FileTree where
  entries := [(["work".toList], .directory)]
  current := ["work".toList]
  isTree := isTree_of_entries (by decide +kernel)

/-- The new project later on, with a directory that is worked in. -/
def furnished : Workplace where
  entries := (createProject bare "/work".toList).files.entries ++
    [(["work".toList, "app".toList], .directory)]
  current := ["work".toList, "app".toList]
  isTree := isTree_of_entries (by decide +kernel)
  here := by decide +kernel

/-- From a directory below, the configuration is the one of the project. -/
theorem load_furnished :
    (createProject bare "/work".toList).result = .ok () ∧
      (Config.load furnished none configName Overrides.none).result =
        .ok ⟨some "/work/icongen.toml".toList, "/work/icons/**/*.svg".toList,
          "/work/src/icons".toList, false, [], [], ".tsx".toList,
          some "/work/templates/icon.tsx.hbs".toList⟩ ∧
      ∃ template, Template.builtin = .ok template ∧ Engines.standard.loadTemplate furnished
        (some "/work/templates/icon.tsx.hbs".toList) = .ok template := by
  have done : (createProject bare "/work".toList).result = .ok () := by decide +kernel
  have kept : ∀ place ∈ [configPlace ["work".toList], templatePlace ["work".toList]],
      furnished.entry? place = (createProject bare "/work".toList).files.entry? place := by
    intro place member
    have elsewhere : ∀ place ∈ [configPlace ["work".toList], templatePlace ["work".toList]],
        List.lookup place [(["work".toList, "app".toList], Entry.directory)] = none := by decide
    unfold entry?
    rw [furnished, List.lookup_append, elsewhere place member, Option.or_none]
  have nearer : ∀ names, names ≠ [] → names <+: ["app".toList] →
      furnished.isFile (Path.join (Location.path (["work".toList] ++ names)) configName) =
        false := by
    intro names some inside
    rcases List.prefix_cons_iff.mp inside with rfl | ⟨rest, rfl, last⟩
    · exact absurd rfl some
    · obtain rfl := List.prefix_nil.mp last
      decide +kernel
  obtain ⟨loaded, ⟨template, builtin, read⟩, -⟩ :=
    @load_createProject ["work".toList] ["app".toList] none bare furnished
      (by decide +kernel) (by decide +kernel) done kept rfl nearer
  exact ⟨done, loaded, template, builtin, read⟩

end Project

end IconComponents
