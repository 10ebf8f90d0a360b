/-
**Reading a starter configuration back.**

The marks of a starter configuration are filled in one after the other, each in the whole file, so a
text that comes in for one mark can hold a later one, which is then filled in as well. What stands
between the quotes in the end is `filled`, and it is put there as it is. It is read back as it is
exactly if all its characters stand for themselves between quotes: a text of quotes, backslashes and
line ends is never what its file gives, even where the file can be read.

* `filled` — what stands between the quotes;
* `render_eq` — the file around it;
* `IsPlain` — all characters stand for themselves;
* `parse_render` — a file gives back what stands in it exactly if that is plain.
-/

import IconComponents.Config.Starter
import IconComponents.Proofs.Config.Settings
import IconComponents.Proofs.Text.Scan
import IconComponents.Proofs.Toml.Lines

namespace IconComponents

open Toml (Document IsUnescaped assignment quotedLine readOn? readOn?_silent readOn?_quoted
  readOn?_false readOn?_line)

namespace StarterConfig

variable {starter : StarterConfig} {line name words value behind rest : Text} {border : Char}
  {document final : Document}

/-! ### Filling in -/

/-- A text with all marks filled in. -/
def fill (starter : StarterConfig) (text : Text) : Text :=
  let withVersion := Text.replaceAll "__VERSION__".toList version text
  let withEntry := Text.replaceAll "__ENTRY__".toList starter.entry withVersion
  let withOutput := Text.replaceAll "__OUTPUT__".toList starter.output withEntry
  Text.replaceAll "__TEMPLATE__".toList starter.template withOutput

/-- What stands between the quotes in the end: the marks that came in with an earlier text are
filled in as well. -/
def filled (starter : StarterConfig) : StarterConfig where
  entry := Text.replaceAll "__TEMPLATE__".toList starter.template
    (Text.replaceAll "__OUTPUT__".toList starter.output starter.entry)
  output := Text.replaceAll "__TEMPLATE__".toList starter.template starter.output
  template := starter.template

/-- No text holds a mark that is filled in after it. -/
def HasNoLaterMark (starter : StarterConfig) : Prop :=
  ¬ "__OUTPUT__".toList <:+: starter.entry ∧ ¬ "__TEMPLATE__".toList <:+: starter.entry ∧
    ¬ "__TEMPLATE__".toList <:+: starter.output

/-- Without later marks, what is filled in stands between the quotes. -/
theorem filled_eq_self (once : starter.HasNoLaterMark) : starter.filled = starter := by
  obtain ⟨noOutput, noTemplate, noTemplate'⟩ := once
  rw [filled, Text.replaceAll_of_not_infix noOutput, Text.replaceAll_of_not_infix noTemplate,
    Text.replaceAll_of_not_infix noTemplate']

/-- The characters of marks. -/
def markCharacters : Text := "_VERSIONENTRYOUTPUTTEMPLATE".toList

theorem fill_nil (starter : StarterConfig) : starter.fill [] = [] := by
  simp only [fill, Text.replaceAll]

/-- Between characters that no mark has, the marks are filled in piece by piece. -/
theorem fill_append_cons (foreign : border ∉ markCharacters) (starter : StarterConfig)
    (value behind : Text) :
    starter.fill (value ++ border :: behind) =
      starter.fill value ++ border :: starter.fill behind := by
  have absent : ∀ mark : Text, mark ⊆ markCharacters → border ∉ mark :=
    fun mark inside member => foreign (inside member)
  simp only [fill]
  rw [Text.replaceAll_append_cons (by decide) (absent _ (by decide)),
    Text.replaceAll_append_cons (by decide) (absent _ (by decide)),
    Text.replaceAll_append_cons (by decide) (absent _ (by decide)),
    Text.replaceAll_append_cons (by decide) (absent _ (by decide))]

/-- Nothing is filled in where there is no mark. -/
theorem fill_of_notMem (plain : '_' ∉ line) (starter : StarterConfig) :
    starter.fill line = line := by
  have absent : ∀ mark : Text, '_' ∈ mark → ¬ mark <:+: line :=
    fun mark member inside => plain (inside.subset member)
  simp only [fill]
  rw [Text.replaceAll_of_not_infix (absent _ (by decide)),
    Text.replaceAll_of_not_infix (absent _ (by decide)),
    Text.replaceAll_of_not_infix (absent _ (by decide)),
    Text.replaceAll_of_not_infix (absent _ (by decide))]

theorem replaceAll_self {mark : Text} (nonempty : mark ≠ []) (replacement : Text) :
    Text.replaceAll mark replacement mark = replacement := by
  have whole := Text.replaceAll_needle_append nonempty replacement []
  rwa [List.append_nil, Text.replaceAll, List.append_nil] at whole

theorem replaceAll_of_contains {mark replacement : Text} (text : Text)
    (absent : Text.contains text mark = false) : Text.replaceAll mark replacement text = text :=
  Text.replaceAll_of_not_infix (Text.not_infix_of_contains absent)

theorem fill_entry (starter : StarterConfig) :
    starter.fill "__ENTRY__".toList = starter.filled.entry := by
  simp only [fill, filled]
  rw [replaceAll_of_contains "__ENTRY__".toList (by decide), replaceAll_self (by decide)]

theorem fill_output (starter : StarterConfig) :
    starter.fill "__OUTPUT__".toList = starter.filled.output := by
  simp only [fill, filled]
  rw [replaceAll_of_contains "__OUTPUT__".toList (by decide),
    replaceAll_of_contains "__OUTPUT__".toList (by decide), replaceAll_self (by decide)]

theorem fill_template (starter : StarterConfig) :
    starter.fill "__TEMPLATE__".toList = starter.filled.template := by
  simp only [fill, filled]
  rw [replaceAll_of_contains "__TEMPLATE__".toList (by decide),
    replaceAll_of_contains "__TEMPLATE__".toList (by decide),
    replaceAll_of_contains "__TEMPLATE__".toList (by decide), replaceAll_self (by decide)]

theorem fill_version (starter : StarterConfig) :
    starter.fill "v__VERSION__".toList = 'v' :: version := by
  have refused : Recogniser.literal "__VERSION__".toList ('v' :: "__VERSION__".toList) = none :=
    Recogniser.literal_eq_none fun rest same => by cases same
  have first : Text.replaceAll "__VERSION__".toList version "v__VERSION__".toList =
      'v' :: version := by
    rw [show "v__VERSION__".toList = 'v' :: "__VERSION__".toList from rfl,
      Text.replaceAll_of_none (by decide) refused, replaceAll_self (by decide)]
  have plain : ∀ mark : Text, '_' ∈ mark → ¬ mark <:+: 'v' :: version :=
    fun mark member inside => absurd (inside.subset member) (by decide)
  simp only [fill]
  rw [first, Text.replaceAll_of_not_infix (plain _ (by decide)),
    Text.replaceAll_of_not_infix (plain _ (by decide)),
    Text.replaceAll_of_not_infix (plain _ (by decide))]

/-! ### The file -/

/-- Lines as a text. -/
def written (lines : List Text) : Text := lines.flatMap fun line => line ++ ['\n']

theorem written_nil : written [] = [] := rfl

theorem written_append (lines more : List Text) :
    written (lines ++ more) = written lines ++ written more := List.flatMap_append

theorem written_cons (line : Text) (lines : List Text) :
    written (line :: lines) = line ++ '\n' :: written lines := by
  simp [written]

/-- Lines are filled one by one. -/
theorem fill_written (starter : StarterConfig) (lines : List Text) :
    starter.fill (written lines) = written (lines.map starter.fill) := by
  induction lines with
  | nil => exact starter.fill_nil
  | cons line lines ih =>
    rw [written_cons, fill_append_cons (by decide), ih, List.map_cons, written_cons]

/-- Some lines of the file, from one on. -/
def stretch (first count : Nat) : List Text := ((lines.drop first).take count).map String.toList

/-- The first line of the file. -/
def title : Text := "# icongen configuration file (v".toList ++ version ++ [')']

/-- The file from the template on. -/
def fromTemplate (starter : StarterConfig) : Text :=
  assignment "template".toList (quotedLine starter.template [])

/-- The file from the lines behind the output on. -/
def fromMiddle (starter : StarterConfig) : Text :=
  written (stretch 10 2) ++
    assignment "rewrite".toList ("false".toList ++ '\n' :: (written (stretch 13 2) ++
    assignment "prefix".toList (quotedLine [] (assignment "postfix".toList (quotedLine []
    (written (stretch 17 2) ++
    assignment "extension".toList (quotedLine ".tsx".toList (written (stretch 20 2) ++
    starter.fromTemplate))))))))

/-- The file from the lines behind the entry on. -/
def fromOutput (starter : StarterConfig) : Text :=
  written (stretch 7 2) ++
    assignment "output".toList (quotedLine starter.output starter.fromMiddle)

/-- The file with the texts between its quotes. -/
def file (starter : StarterConfig) : Text :=
  title ++ '\n' :: (written (stretch 1 5) ++
    assignment "entry".toList (quotedLine starter.entry starter.fromOutput))

/-- Where the stretches between the settings start, and how long they are. -/
def gaps : List (Nat × Nat) := [(1, 5), (7, 2), (10, 2), (13, 2), (17, 2), (20, 2)]

/-- **Between the settings** there is no mark, and the lines say nothing. -/
theorem silent_of_gap {first count : Nat} (between : (first, count) ∈ gaps) :
    ∀ line ∈ stretch first count, '_' ∉ line ∧ Toml.IsSilent line := by
  have each : ∀ gap ∈ gaps, ∀ line ∈ ((lines.map String.toList).drop gap.1).take gap.2,
      '_' ∉ line ∧ Toml.IsSilent line := by
    simp only [lines, List.map_cons, List.map_nil]
    repeat rw [String.toList_ofList]
    decide +kernel
  intro line member
  rw [stretch, List.map_take, List.map_drop] at member
  exact each _ between line member

/-- The lines between the settings hold no marks. -/
theorem fill_stretch {first count : Nat} (between : (first, count) ∈ gaps)
    (starter : StarterConfig) : (stretch first count).map starter.fill = stretch first count :=
  (List.map_congr_left fun line member =>
    starter.fill_of_notMem (silent_of_gap between line member).1).trans (List.map_id _)

/-- A line with a mark between quotes. -/
theorem fill_quoted {name mark : Text} (plain : '_' ∉ name) (starter : StarterConfig) :
    starter.fill (assignment name ('"' :: (mark ++ ['"']))) =
      assignment name ('"' :: (starter.fill mark ++ ['"'])) := by
  have key : assignment name ('"' :: (mark ++ ['"'])) =
      (name ++ " = ".toList) ++ '"' :: (mark ++ '"' :: []) := by
    simp [assignment]
  have noMark : '_' ∉ name ++ " = ".toList := by simp [plain]
  rw [key, fill_append_cons (by decide), fill_append_cons (by decide), fill_of_notMem noMark,
    fill_nil]
  simp [assignment]

/-- The lines of the file: settings, and the stretches between them. -/
theorem lines_eq : lines.map String.toList =
    ("# icongen configuration file ".toList ++ '(' :: ("v__VERSION__".toList ++ [')'])) ::
      (stretch 1 5 ++ assignment "entry".toList ('"' :: ("__ENTRY__".toList ++ ['"'])) ::
      (stretch 7 2 ++ assignment "output".toList ('"' :: ("__OUTPUT__".toList ++ ['"'])) ::
      (stretch 10 2 ++ assignment "rewrite".toList "false".toList ::
      (stretch 13 2 ++ assignment "prefix".toList "\"\"".toList ::
      assignment "postfix".toList "\"\"".toList ::
      (stretch 17 2 ++ assignment "extension".toList "\".tsx\"".toList ::
      (stretch 20 2 ++
      [assignment "template".toList ('"' :: ("__TEMPLATE__".toList ++ ['"']))])))))) := by
  simp only [stretch, lines, List.drop_succ_cons, List.drop_zero, List.take_succ_cons,
    List.take_zero, List.map_cons, List.map_nil]
  repeat rw [String.toList_ofList]
  decide +kernel

/-- **What is written** is the file with what stands between its quotes in the end. -/
theorem render_eq (starter : StarterConfig) : starter.render = starter.filled.file := by
  have unfilled : blank = written (lines.map String.toList) := by
    rw [blank, written, List.flatMap_map]
  have first : starter.fill ("# icongen configuration file ".toList ++
      '(' :: ("v__VERSION__".toList ++ [')'])) = title := by
    rw [fill_append_cons (by decide), fill_append_cons (by decide), fill_version, fill_nil,
      fill_of_notMem (by decide)]
    rfl
  rw [show starter.render = starter.fill blank from rfl, unfilled, fill_written, lines_eq]
  simp only [List.map_cons, List.map_append, List.map_nil]
  rw [first, fill_quoted (by decide), fill_entry, fill_quoted (by decide), fill_output,
    fill_quoted (by decide), fill_template, fill_stretch (by decide), fill_stretch (by decide),
    fill_stretch (by decide), fill_stretch (by decide), fill_stretch (by decide),
    fill_stretch (by decide), fill_of_notMem (by decide), fill_of_notMem (by decide),
    fill_of_notMem (by decide), fill_of_notMem (by decide)]
  have nothing : "\"\"".toList = '"' :: ([] ++ ['"']) := by decide
  have extension : "\".tsx\"".toList = '"' :: (".tsx".toList ++ ['"']) := by decide
  simp only [nothing, extension, file, fromOutput, fromMiddle, fromTemplate, written_cons,
    written_append, written_nil, assignment, quotedLine, List.append_assoc, List.cons_append,
    List.nil_append]

/-! ### Reading the file -/

/-- All characters of the texts stand for themselves between quotes. -/
def IsPlain (starter : StarterConfig) : Prop :=
  (∀ c ∈ starter.entry, IsUnescaped c) ∧ (∀ c ∈ starter.output, IsUnescaped c) ∧
    ∀ c ∈ starter.template, IsUnescaped c

instance (starter : StarterConfig) : Decidable starter.IsPlain :=
  inferInstanceAs (Decidable ((∀ c ∈ starter.entry, IsUnescaped c) ∧
    (∀ c ∈ starter.output, IsUnescaped c) ∧ ∀ c ∈ starter.template, IsUnescaped c))

/-- The configuration with the texts, and the defaults besides. -/
def config (starter : StarterConfig) : Config :=
  { Config.default with
    entry := starter.entry
    output := starter.output
    template := some starter.template }

/-- The settings of the file in order. -/
def nodes (starter : StarterConfig) : Document :=
  [([.key "entry".toList], .value (.text starter.entry)),
    ([.key "output".toList], .value (.text starter.output)),
    ([.key "rewrite".toList], .value (.flag false)),
    ([.key "prefix".toList], .value (.text [])),
    ([.key "postfix".toList], .value (.text [])),
    ([.key "extension".toList], .value (.text ".tsx".toList)),
    ([.key "template".toList], .value (.text starter.template))]

/-- The lines between the settings are passed. -/
theorem readOn?_stretch {first count : Nat} (between : (first, count) ∈ gaps) (rest : Text) :
    readOn? document (written (stretch first count) ++ rest) = readOn? document rest :=
  readOn?_silent (fun line member => (silent_of_gap between line member).2) rest

/-- The lines between the output and the template give the settings that are not filled in. -/
theorem readOn?_fromMiddle (starter : StarterConfig) :
    readOn? (starter.nodes.take 2) starter.fromMiddle =
      readOn? (starter.nodes.take 6) starter.fromTemplate := by
  rw [fromMiddle, readOn?_stretch (by decide), readOn?_false (by decide) rfl,
    readOn?_stretch (by decide), readOn?_quoted (by decide) rfl (by decide),
    readOn?_quoted (by decide) rfl (by decide), readOn?_stretch (by decide),
    readOn?_quoted (by decide) rfl (by decide), readOn?_stretch (by decide)]
  rfl

/-- A starter file is read by its assignments. -/
theorem read?_file (starter : StarterConfig) : Toml.read? starter.file =
    readOn? [] (assignment "entry".toList (quotedLine starter.entry starter.fromOutput)) := by
  rw [Toml.read?_eq, show Toml.dropMark starter.file = starter.file from rfl, file,
    readOn?_line (by decide), readOn?_stretch (by decide)]

/-- **A plain file is read** as its settings. -/
theorem read?_file_of_isPlain (plain : starter.IsPlain) :
    Toml.read? starter.file = some starter.nodes := by
  obtain ⟨entry, output, template⟩ := plain
  have first := readOn?_fromMiddle starter
  rw [read?_file, readOn?_quoted (by decide) rfl entry, fromOutput, readOn?_stretch (by decide),
    readOn?_quoted (by decide) rfl output]
  refine first.trans ?_
  rw [fromTemplate, readOn?_quoted (by decide) rfl template, Toml.readOn?_nil]
  rfl

/-- The value of a setting in a document is a text, if there is one. -/
def Reads (document : Document) (name words : Text) : Prop :=
  ∀ value, document.find? [.key name] = some (.value value) → value = .text words

/-- **A file is plain if its texts are read back.** -/
theorem isPlain_of_read? (read : Toml.read? starter.file = some final)
    (entry : Reads final "entry".toList starter.entry)
    (output : Reads final "output".toList starter.output)
    (template : Reads final "template".toList starter.template) : starter.IsPlain := by
  rw [read?_file] at read
  obtain ⟨value, held, back⟩ :=
    Toml.exists_value_of_readOn? (by decide) rfl (Or.inr ⟨_, rfl⟩) read
  have entryPlain := back (entry value held)
  rw [readOn?_quoted (by decide) rfl entryPlain, fromOutput, readOn?_stretch (by decide)] at read
  obtain ⟨value, held, back⟩ :=
    Toml.exists_value_of_readOn? (by decide) rfl (Or.inr ⟨_, rfl⟩) read
  have outputPlain := back (output value held)
  rw [readOn?_quoted (by decide) rfl outputPlain] at read
  have read : readOn? (starter.nodes.take 6) starter.fromTemplate = some final :=
    (readOn?_fromMiddle starter).symm.trans read
  obtain ⟨value, held, back⟩ :=
    Toml.exists_value_of_readOn? (by decide) rfl (Or.inl rfl) read
  exact ⟨entryPlain, outputPlain, back (template value held)⟩

/-- A plain file's configuration. -/
theorem parse_file_of_isPlain (plain : starter.IsPlain) :
    Config.parse starter.file = .ok (starter.config, []) := by
  rw [Config.parse, read?_file_of_isPlain plain, Option.bind_some]
  rfl

/-- Whether the file that is written gives three texts back. -/
def ReadsBackAs (starter texts : StarterConfig) : Prop :=
  ∃ config unknown, Config.parse starter.render = .ok (config, unknown) ∧
    config.entry = texts.entry ∧ config.output = texts.output ∧
    config.template = some texts.template

/-- What is read back stands for itself. -/
theorem isPlain_of_readsBackAs (back : starter.ReadsBackAs starter.filled) :
    starter.filled.IsPlain := by
  obtain ⟨config, unknown, parsed, entry, output, template⟩ := back
  rw [render_eq] at parsed
  obtain ⟨document, read, -, -, values⟩ := Config.parse_eq_ok parsed
  have reads : ∀ (setting : Config.Setting) (words : Text),
      config.value? setting = some (.text words) → Reads document setting.key words := by
    intro setting words given value held
    rw [values, Config.givenBy, held] at given
    exact Option.some.inj given
  exact isPlain_of_read? read (reads .entry _ (by rw [Config.value?, entry]))
    (reads .output _ (by rw [Config.value?, output]))
    (reads .template _ (by rw [Config.value?, template]; rfl))

/-- **A starter configuration** gives back what stands in it exactly if that is plain, and then all
other settings are the defaults; and unless a text holds a later mark, what stands in it is what it
is filled in with. -/
theorem parse_render (starter : StarterConfig) :
    (starter.ReadsBackAs starter.filled ↔ starter.filled.IsPlain) ∧
      (starter.filled.IsPlain →
        Config.parse starter.render = .ok (starter.filled.config, [])) ∧
      (starter.HasNoLaterMark →
        (starter.ReadsBackAs starter ↔ starter.IsPlain) ∧
        (starter.IsPlain → Config.parse starter.render = .ok (starter.config, []))) := by
  have parsed : starter.filled.IsPlain →
      Config.parse starter.render = .ok (starter.filled.config, []) := by
    rw [render_eq]
    exact parse_file_of_isPlain
  have back : starter.ReadsBackAs starter.filled ↔ starter.filled.IsPlain :=
    ⟨isPlain_of_readsBackAs, fun plain => ⟨_, _, parsed plain, rfl, rfl, rfl⟩⟩
  refine ⟨back, parsed, fun once => ?_⟩
  rw [filled_eq_self once] at back parsed
  exact ⟨back, parsed⟩

/-- The configuration of an initial project is read back. -/
theorem parse_initial :
    (StarterConfig.mk "icons/**/*.svg".toList "src/icons".toList
        "templates/icon.tsx.hbs".toList).HasNoLaterMark ∧
      Config.parse (StarterConfig.mk "icons/**/*.svg".toList "src/icons".toList
        "templates/icon.tsx.hbs".toList).render =
        .ok (⟨none, "icons/**/*.svg".toList, "src/icons".toList, false, [], [], ".tsx".toList,
          some "templates/icon.tsx.hbs".toList⟩, []) := by
  have once : (StarterConfig.mk "icons/**/*.svg".toList "src/icons".toList
      "templates/icon.tsx.hbs".toList).HasNoLaterMark :=
    ⟨Text.not_infix_of_contains (by decide), Text.not_infix_of_contains (by decide),
      Text.not_infix_of_contains (by decide)⟩
  exact ⟨once, ((parse_render _).2.2 once).2 (by decide)⟩

/-- A pattern with a quote in it is not read back, and neither is one that is the mark of the
output: it becomes the output. -/
theorem quote_and_mark_not_read_back :
    ¬ (StarterConfig.mk "a\"b".toList "src/icons".toList "t.hbs".toList).ReadsBackAs
        ⟨"a\"b".toList, "src/icons".toList, "t.hbs".toList⟩ ∧
      ¬ (StarterConfig.mk "__OUTPUT__".toList "src/icons".toList "t.hbs".toList).ReadsBackAs
        ⟨"__OUTPUT__".toList, "src/icons".toList, "t.hbs".toList⟩ := by
  constructor
  · intro back
    have once : (StarterConfig.mk "a\"b".toList "src/icons".toList "t.hbs".toList).HasNoLaterMark :=
      ⟨Text.not_infix_of_contains (by decide), Text.not_infix_of_contains (by decide),
        Text.not_infix_of_contains (by decide)⟩
    have plain := isPlain_of_readsBackAs (by rwa [filled_eq_self once])
    rw [filled_eq_self once] at plain
    exact absurd plain (by decide)
  · rintro ⟨config, unknown, parsed, entry, -, -⟩
    have filled : (StarterConfig.mk "__OUTPUT__".toList "src/icons".toList "t.hbs".toList).filled =
        ⟨"src/icons".toList, "src/icons".toList, "t.hbs".toList⟩ := by
      simp only [StarterConfig.filled]
      rw [replaceAll_self (by decide), replaceAll_of_contains "src/icons".toList (by decide)]
    rw [render_eq, filled, parse_file_of_isPlain (by decide)] at parsed
    cases parsed
    exact absurd entry (by decide)

end StarterConfig

end IconComponents
