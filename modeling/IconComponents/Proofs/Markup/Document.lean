/-
**Markup as tags and words.**

Well-formed markup, with all the freedom that its white space and its values have: words, and tags
with words behind them. A tag holds attributes, each with white space before it and its value in
double quotes; a value is any text without a double quote and without `<`. Closing tags and
declarations are tags whose names start with `/` and `?`.

* `Gap`, `Attribute`, `Tag`, `Markup` — the parts, each well formed by its construction;
* `Markup.print` — the text;
* `Markup.attributes` — all attributes in the order of the text.
-/

import IconComponents.Proofs.Markup.Attribute

namespace IconComponents.Document

/-- The characters of names: all but white space and the marks of markup. -/
def isNamePart (c : Char) : Bool :=
  !(Char.isBlank c || c = '"' || c = '=' || c = '<' || c = '>')

/-- The white space that sets the parts of a tag apart. -/
structure Gap where
  text : Text
  some : text ≠ []
  blank : ∀ c ∈ text, Char.isBlank c = true

/-- An attribute with the white space before it. -/
structure Attribute where
  gap : Gap
  name : Text
  value : Text
  named : name ≠ []
  nameParts : ∀ c ∈ name, isNamePart c = true
  plain : '"' ∉ value
  flat : '<' ∉ value

/-- A tag, and the words behind it. The tag ends in white space and the mark of an element that is
closed at once, or of a declaration. -/
structure Tag where
  name : Text
  attributes : List Attribute
  ending : Text
  words : Text
  named : name ≠ []
  nameParts : ∀ c ∈ name, isNamePart c = true
  ends : ∀ c ∈ ending, Char.isBlank c = true ∨ c = '/' ∨ c = '?'
  flat : '<' ∉ words

/-- Words, and tags with words behind them. -/
structure Markup where
  words : Text
  tags : List Tag
  flat : '<' ∉ words

/-! ### Printing -/

def Attribute.print (entry : Attribute) : Text :=
  entry.gap.text ++ Element.quoted entry.name entry.value

/-- The inside of a tag. -/
def printAttributes (attributes : List Attribute) : Text := attributes.flatMap Attribute.print

def Tag.print (tag : Tag) : Text :=
  '<' :: tag.name ++ (printAttributes tag.attributes ++ (tag.ending ++ '>' :: tag.words))

def printTags (tags : List Tag) : Text := tags.flatMap Tag.print

/-- The text of markup. -/
def Markup.print (markup : Markup) : Text := markup.words ++ printTags markup.tags

theorem printAttributes_cons (entry : Attribute) (attributes : List Attribute) :
    printAttributes (entry :: attributes) = entry.print ++ printAttributes attributes := rfl

theorem printTags_cons (tag : Tag) (tags : List Tag) :
    printTags (tag :: tags) = '<' :: tag.name ++ (printAttributes tag.attributes ++
      (tag.ending ++ '>' :: (tag.words ++ printTags tags))) := by
  simp [printTags, Tag.print]

/-- All attributes in the order of the text. -/
def Markup.attributes (markup : Markup) : List Attribute := markup.tags.flatMap (·.attributes)

/-! ### Characters that names and the ends of tags do not hold -/

theorem not_mem_of_nameParts {name : Text} {c : Char} (apart : isNamePart c = false)
    (nameParts : ∀ c ∈ name, isNamePart c = true) : c ∉ name := fun member => by
  rw [nameParts c member] at apart
  cases apart

theorem not_isBlank_of_isNamePart {c : Char} (part : isNamePart c = true) :
    Char.isBlank c = false := by
  simp only [isNamePart, Bool.not_eq_true', Bool.or_eq_false_iff] at part
  exact part.1.1.1.1

theorem not_mem_of_blank {blanks : Text} {c : Char} (solid : Char.isBlank c = false)
    (blank : ∀ c ∈ blanks, Char.isBlank c = true) : c ∉ blanks := fun member => by
  rw [blank c member] at solid
  cases solid

/-- A gap ends in a white space character. -/
theorem Gap.exists_last (gap : Gap) :
    ∃ ahead last, gap.text = ahead ++ [last] ∧ (∀ c ∈ ahead, Char.isBlank c = true) ∧
      Char.isBlank last = true := by
  obtain ⟨ahead, last, shape⟩ := (List.eq_nil_or_concat' gap.text).resolve_left gap.some
  have blank := gap.blank
  rw [shape] at blank
  exact ⟨ahead, last, shape, fun c member => blank c (List.mem_append_left _ member),
    blank last (by simp)⟩

theorem Tag.not_mem_ending {tag : Tag} {c : Char} (solid : Char.isBlank c = false)
    (slash : c ≠ '/') (question : c ≠ '?') : c ∉ tag.ending := fun member => by
  rcases tag.ends c member with blank | same | same
  · rw [blank] at solid
    cases solid
  · exact slash same
  · exact question same

/-! ### Markup of one element -/

/-- One space. -/
def Gap.space : Gap := ⟨[' '], List.cons_ne_nil _ _, Text.forall_mem_of_all rfl⟩

/-- An attribute behind one space, with a name and a value that are found to be plain. -/
def Attribute.spaced (name value : Text) (named : (!name.isEmpty && name.all isNamePart) = true)
    (plain : value.all (fun c => c != '"' && c != '<') = true) : Attribute where
  gap := .space
  name
  value
  named := by
    rintro rfl
    cases named
  nameParts := List.all_eq_true.mp (Bool.and_eq_true_iff.mp named).2
  plain member := absurd (List.all_eq_true.mp plain _ member) (by decide)
  flat member := absurd (List.all_eq_true.mp plain _ member) (by decide)

/-- An element named `path` that is closed at once. -/
def Markup.path (attributes : List Attribute) : Markup where
  words := []
  tags := [{
    name := "path".toList
    attributes
    ending := ['/']
    words := []
    named := by decide
    nameParts := Text.forall_mem_of_all rfl
    ends := Text.forall_mem_of_all rfl
    flat := List.not_mem_nil }]
  flat := List.not_mem_nil

end IconComponents.Document
