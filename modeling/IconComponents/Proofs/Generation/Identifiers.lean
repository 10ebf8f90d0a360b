/-
**Identifiers of different icons.**

What stands in front of the identifiers of an icon keeps them apart from those of another icon only
in part: the words of the component name are written in small letters, with a hyphen behind each,
and an identifier can hold hyphens, too.

* `idStart_append_eq_iff` — when identifiers of two icons are written alike;
* `written_ids_eq_iff` — the same for the icons of a run, whatever its configuration, and icons that
  share all their identifiers;
* `capitals_share_ids` — such icons with the standard spelling;
* `menus_share_an_id` — a run with two components that hold one identifier.
-/

import IconComponents.Generation.Run
import IconComponents.Proofs.Name.CaseConversion

namespace IconComponents.Generation

open Name

variable {engines : Engines} {name other id id' : Text}

/-- The words of `other` go on behind those of `name`, and `id` spells out the rest of them and
`id'` behind it. -/
structure SpellsOut (engines : Engines) (name other id id' : Text) : Prop where
  named : kebabWords engines.spell name ≠ []
  spelled : ∃ more, more ≠ [] ∧
    kebabWords engines.spell other = kebabWords engines.spell name ++ more ∧
    id = Text.joinWith ['-'] more ++ '-' :: id'

/-! ### The starts of identifiers -/

theorem idStart_eq (named : kebabWords engines.spell name ≠ []) :
    engines.idStart name = spelled (kebabWords engines.spell name) :=
  joinWith_append_hyphen named

/-- Without words in the name, a hyphen is all that stands in front of an identifier. -/
theorem idStart_of_nil (unnamed : kebabWords engines.spell name = []) :
    engines.idStart name = ['-'] := by
  show Text.joinWith ['-'] (kebabWords engines.spell name) ++ ['-'] = ['-']
  rw [unnamed]
  rfl

theorem idStart_congr (same : kebabWords engines.spell name = kebabWords engines.spell other) :
    engines.idStart name = engines.idStart other :=
  congrArg (Text.joinWith ['-'] · ++ ['-']) same

/-- No identifier of an icon that has words in its name starts with a hyphen. -/
theorem idStart_append_ne_hyphen (named : kebabWords engines.spell name ≠ []) (id id' : Text) :
    engines.idStart name ++ id ≠ '-' :: id' := by
  obtain ⟨word, words, shape⟩ := List.exists_cons_of_ne_nil named
  have member : word ∈ kebabWords engines.spell name := by simp [shape]
  obtain ⟨some, apart⟩ := apart_of_mem_kebabWords member
  obtain ⟨c, rest, rfl⟩ := List.exists_cons_of_ne_nil some
  rw [idStart_eq named, shape, spelled_cons]
  intro same
  have first : c = '-' := (List.cons.inj same).1
  exact apart (first ▸ List.mem_cons_self)

/-- An identifier spells words out if it starts with them, a hyphen behind each. -/
theorem spellsOut_iff (named : kebabWords engines.spell name ≠ []) {more : List Text}
    (some : more ≠ [])
    (split : kebabWords engines.spell other = kebabWords engines.spell name ++ more) :
    SpellsOut engines name other id id' ↔ id = spelled more ++ id' := by
  have ending : Text.joinWith ['-'] more ++ '-' :: id' = spelled more ++ id' := by
    rw [← joinWith_append_hyphen some, List.append_assoc, List.singleton_append]
  rw [← ending]
  constructor
  · rintro ⟨-, more', -, split', rfl⟩
    rw [List.append_cancel_left (split'.symm.trans split)]
  · intro shape
    exact ⟨named, more, some, split, shape⟩

/-- Identifiers that are written alike, if there are words in both names. -/
theorem idStart_append_eq_iff_of_named (named : kebabWords engines.spell name ≠ [])
    (named' : kebabWords engines.spell other ≠ []) :
    engines.idStart name ++ id = engines.idStart other ++ id' ↔
      (kebabWords engines.spell name = kebabWords engines.spell other ∧ id = id') ∨
        SpellsOut engines name other id id' ∨ SpellsOut engines other name id' id := by
  rw [idStart_eq named, idStart_eq named', spelled_append_eq_iff
    (fun word member => (apart_of_mem_kebabWords member).2)
    (fun word member => (apart_of_mem_kebabWords member).2)]
  constructor
  · rintro (⟨more, split, shape⟩ | ⟨more, split, shape⟩) <;> by_cases some : more = []
    · subst some
      exact Or.inl ⟨by simp [split], shape⟩
    · exact Or.inr (Or.inl ((spellsOut_iff named some split).mpr shape))
    · subst some
      exact Or.inl ⟨by simp [split], shape.symm⟩
    · exact Or.inr (Or.inr ((spellsOut_iff named' some split).mpr shape))
  · rintro (⟨same, rfl⟩ | spells | spells)
    · exact Or.inl ⟨[], by simp [same], rfl⟩
    · obtain ⟨more, some, split, -⟩ := spells.spelled
      exact Or.inl ⟨more, split, (spellsOut_iff named some split).mp spells⟩
    · obtain ⟨more, some, split, -⟩ := spells.spelled
      exact Or.inr ⟨more, split, (spellsOut_iff named' some split).mp spells⟩

/-- A name without words shares no identifiers with one that has words. -/
theorem not_alike_of_unnamed (unnamed : kebabWords engines.spell name = [])
    (named : kebabWords engines.spell other ≠ []) (id id' : Text) :
    engines.idStart name ++ id ≠ engines.idStart other ++ id' ∧
      ¬ ((kebabWords engines.spell name = kebabWords engines.spell other ∧ id = id') ∨
        SpellsOut engines name other id id' ∨ SpellsOut engines other name id' id) := by
  constructor
  · rw [idStart_of_nil unnamed]
    exact (idStart_append_ne_hyphen named id' id).symm
  · rintro (⟨same, -⟩ | spells | spells)
    · exact named (same ▸ unnamed)
    · exact spells.named unnamed
    · obtain ⟨more, -, split, -⟩ := spells.spelled
      simp [unnamed, named] at split

/-- **When two identifiers are written alike**: they are the same and the names have the same words,
or the words of one name start with those of the other, and the other's identifier spells out what
is between them. -/
theorem idStart_append_eq_iff (name other id id' : Text) :
    engines.idStart name ++ id = engines.idStart other ++ id' ↔
      (kebabWords engines.spell name = kebabWords engines.spell other ∧ id = id') ∨
        SpellsOut engines name other id id' ∨ SpellsOut engines other name id' id := by
  by_cases unnamed : kebabWords engines.spell name = [] <;>
    by_cases unnamed' : kebabWords engines.spell other = []
  · rw [idStart_of_nil unnamed, idStart_of_nil unnamed', List.append_cancel_left_eq]
    constructor
    · rintro rfl
      exact Or.inl ⟨unnamed.trans unnamed'.symm, rfl⟩
    · rintro (⟨-, rfl⟩ | spells | spells)
      · rfl
      · exact absurd unnamed spells.named
      · exact absurd unnamed' spells.named
  · obtain ⟨differ, none⟩ := not_alike_of_unnamed unnamed unnamed' id id'
    exact iff_of_false differ none
  · obtain ⟨differ, none⟩ := not_alike_of_unnamed unnamed' unnamed id' id
    refine iff_of_false differ.symm fun alike => none ?_
    rcases alike with ⟨same, rfl⟩ | spells | spells
    · exact Or.inl ⟨same.symm, rfl⟩
    · exact Or.inr (Or.inr spells)
    · exact Or.inr (Or.inl spells)
  · exact idStart_append_eq_iff_of_named unnamed unnamed'

/-! ### The icons of a run -/

/-- A spelling leaves letters and digits alone, and they leave it alone: whichever they are, the same
is spelled in front of them and behind them. -/
def KeepsLetters (spell : Text → Text) : Prop :=
  ∀ leading trailing, ∃ ahead behind, ∀ middle : Text, middle ≠ [] →
    (∀ c ∈ middle, c.isAlphanum = true) →
    spell (leading ++ middle ++ trailing) = ahead ++ middle ++ behind

/-- The standard spelling leaves letters and digits alone. -/
theorem keepsLetters_transliterate : KeepsLetters Text.transliterate := by
  refine fun leading trailing => ⟨leading.transliterate, trailing.transliterate,
    fun middle _ solid => ?_⟩
  rw [Text.transliterate_append, Text.transliterate_append,
    Text.transliterate_of_ascii fun c member => ascii_of_isAlphanum (solid c member)]

/-- A capital behind a capital starts no new word, so that it is lost in small letters only. -/
theorem map_lower_cutWords_capitals (behind : Text) :
    (cutWords ("Abc".toList ++ behind)).map Text.lower =
      (cutWords ("ABc".toList ++ behind)).map Text.lower := by
  have joins (c next : Char) (text : Text)
      (joined : (c.isAlphanum && next.isAlphanum && !isBoundary c next) = true) :
      cutWords (c :: next :: text) = extendFirst c (cutWords (next :: text)) := by
    simp only [Bool.and_eq_true] at joined
    rw [cutWords_cons_cons joined.1.1, if_pos (by simp only [joined, Bool.and_self])]
  show (cutWords ('A' :: 'b' :: 'c' :: behind)).map Text.lower =
    (cutWords ('A' :: 'B' :: 'c' :: behind)).map Text.lower
  rw [joins 'A' 'b' _ (by decide), joins 'b' 'c' _ (by decide), joins 'A' 'B' _ (by decide),
    joins 'B' 'c' _ (by decide)]
  simp only [map_lower_extendFirst]
  rfl

/-- Capitals in the middle of a word are lost in what stands in front of identifiers. -/
theorem kebabWords_capitals {spell : Text → Text} (keeps : KeepsLetters spell)
    (leading trailing : Text) :
    kebabWords spell (leading ++ "Abc".toList ++ trailing) =
      kebabWords spell (leading ++ "ABc".toList ++ trailing) := by
  obtain ⟨ahead, behind, spelled⟩ := keeps leading trailing
  rw [kebabWords, kebabWords, wordsBy, wordsBy,
    spelled "Abc".toList (by decide) (List.all_eq_true.mp (by decide)),
    spelled "ABc".toList (by decide) (List.all_eq_true.mp (by decide)), List.append_assoc,
    List.append_assoc]
  exact map_lower_cutWords_append (map_lower_cutWords_capitals behind) ahead

/-- The component name of a file whose stem is ASCII. -/
theorem componentName_of_ascii (keeps : KeepsAscii engines.spell) (config : Config)
    {file title : Text}
    (ascii : (stem ((Path.fileName? file).getD [])).all (fun c => c.toNat < 0x80) = true)
    (cut : (cutWords (stem ((Path.fileName? file).getD []))).flatMap capitalise = title) :
    engines.componentName config file = config.leading ++ title ++ config.trailing := by
  have ascii c member := of_decide_eq_true (List.all_eq_true.mp ascii c member)
  rw [Engines.componentName, ofPathBy, titleCaseBy, wordsBy, keeps _ ascii, cut]

/-- **Identifiers of different icons of a run.** Identifiers of two icons are written alike exactly
if the words of their component names are the same in small letters and the identifiers are, too, or
if the words of one name start with those of the other one, whose identifier spells out the words
that are left. Under every configuration there are icons with different component names that share
all their identifiers; of the spelling it is only used that it leaves ASCII alone, and letters and
digits between other characters. -/
theorem written_ids_eq_iff (engines : Engines) (config : Config) :
    (∀ icon other id id' : Text,
      engines.idStart (engines.componentName config icon) ++ id =
          engines.idStart (engines.componentName config other) ++ id' ↔
        (kebabWords engines.spell (engines.componentName config icon) =
            kebabWords engines.spell (engines.componentName config other) ∧ id = id') ∨
          SpellsOut engines (engines.componentName config icon)
            (engines.componentName config other) id id' ∨
          SpellsOut engines (engines.componentName config other)
            (engines.componentName config icon) id' id) ∧
      (KeepsAscii engines.spell → KeepsLetters engines.spell →
        ∃ icon other : Text,
          engines.componentName config icon ≠ engines.componentName config other ∧
          ∀ id, engines.idStart (engines.componentName config icon) ++ id =
            engines.idStart (engines.componentName config other) ++ id) := by
  refine ⟨fun icon other => idStart_append_eq_iff _ _, fun ascii letters => ?_⟩
  have plain : engines.componentName config "abc.svg".toList =
      config.leading ++ "Abc".toList ++ config.trailing :=
    componentName_of_ascii ascii config (by decide) (by decide)
  have capital : engines.componentName config "aBc.svg".toList =
      config.leading ++ "ABc".toList ++ config.trailing :=
    componentName_of_ascii ascii config (by decide) (by decide)
  refine ⟨"abc.svg".toList, "aBc.svg".toList, ?_, fun id => ?_⟩
  · rw [plain, capital]
    simp
  · rw [plain, capital, idStart_congr (kebabWords_capitals letters _ _)]

/-- With the standard spelling two icons share all their identifiers. -/
theorem capitals_share_ids :
    KeepsAscii Engines.standard.spell ∧ KeepsLetters Engines.standard.spell ∧
      ∃ icon other : Text, Name.ofPath icon [] [] ≠ Name.ofPath other [] [] ∧
        ∀ id, idStart (Name.ofPath icon [] []) ++ id = idStart (Name.ofPath other [] []) ++ id := by
  have ascii : KeepsAscii Engines.standard.spell := fun _ => Text.transliterate_of_ascii
  exact ⟨ascii, keepsLetters_transliterate,
    (written_ids_eq_iff Engines.standard Config.default).2 ascii keepsLetters_transliterate⟩

/-- A project with two icons, a small template, and nothing generated yet. -/
def menus : FileSystem :=
  { entries :=
      [(["icons".toList], .directory),
        (["icons".toList, "menu.svg".toList],
          .file (.text ("<svg xmlns=\"http://www.w3.org/2000/svg\" width=\"8\" height=\"8\">".toList ++
            "<path id=\"2-a\" d=\"M4 4L7 7\"/></svg>".toList))),
        (["icons".toList, "menu2.svg".toList],
          .file (.text ("<svg xmlns=\"http://www.w3.org/2000/svg\" width=\"8\" height=\"8\">".toList ++
            "<path id=\"a\" d=\"M4 4L7 7\"/></svg>".toList))),
        (["icon.hbs".toList], .file (.text "<svg/>".toList))]
    current := [] }

/-- The configuration for the project. -/
def menuConfig : Config :=
  { Config.default with
    entry := "icons/*.svg".toList, output := "out".toList, template := some "icon.hbs".toList }

/-- What the components of both icons hold. -/
def menuComponent : Text :=
  "<svg viewBox=\"0 0 8 8\" xmlns=\"http://www.w3.org/2000/svg\"><defs/>".toList ++
    "<path id=\"menu-2-a\" fill=\x7bfill\x7d stroke=\"none\" d=\"M 4 4 L 7 7\"/></svg>".toList

/-- **Two icons of one run share an identifier**: the first calls its path `2-a`, the second one
calls it `a`. -/
theorem menus_share_an_id :
    Engines.standard.componentName menuConfig "icons/menu.svg".toList ≠
        Engines.standard.componentName menuConfig "icons/menu2.svg".toList ∧
      idStart (Engines.standard.componentName menuConfig "icons/menu.svg".toList) ++ "2-a".toList =
        idStart (Engines.standard.componentName menuConfig "icons/menu2.svg".toList) ++
          "a".toList ∧
      (generate menuConfig menus).result =
        .ok ⟨["out/Menu.tsx".toList, "out/Menu2.tsx".toList], []⟩ ∧
      (generate menuConfig menus).files.read? "out/Menu.tsx".toList =
        some (.text menuComponent) ∧
      (generate menuConfig menus).files.read? "out/Menu2.tsx".toList =
        some (.text menuComponent) := by
  unfold menus menuConfig menuComponent
  repeat rw [String.toList_ofList]
  decide +kernel

end IconComponents.Generation
