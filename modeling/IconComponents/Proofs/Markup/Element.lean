/-
**Elements as markup.**

A tree of elements without words between them, and its text: one space before each attribute, an
element without children closed at once or by a tag of its own. Attributes are of any type, so that
a tree before and a tree after a pass over its text are trees of the same kind.

* `Forest` — elements side by side, each with what is in it; `Forest.print` is their text;
* `Root` — the tree of an icon, whose root is named `svg`;
* `rewrite_print`, `hits_print` — a scan that finds nothing outside attributes works on the text of
  a forest as on each attribute alone.
-/

import IconComponents.Markup.SvgTag
import IconComponents.Proofs.Text.Scan

namespace IconComponents.Element

/-- The characters of names: ASCII letters and digits, underscore, hyphen, colon and dot. -/
def isNameChar (c : Char) : Bool :=
  c.isAlphanum || c = '_' || c = '-' || c = ':' || c = '.'

/-- The name of an element or of an attribute. -/
structure Name where
  text : Text
  plain : ∀ c ∈ text, isNameChar c = true

/-- The start of an element's tag. -/
def Name.opening (name : Name) : Text := '<' :: name.text

/-- The tag behind an element. -/
def Name.closing (name : Name) : Text := '<' :: '/' :: name.text ++ ['>']

/-- Elements side by side. -/
inductive Forest (α : Type) where
  | empty
  | closed (name : Name) (attributes : List α) (behind : Forest α)
  | element (name : Name) (attributes : List α) (inside behind : Forest α)

/-- The tree of an icon; `none` inside if its root is closed at once. -/
structure Root (α : Type) where
  attributes : List α
  inside? : Option (Forest α)

variable {α β : Type}

/-- Attributes, each behind a space. -/
def printAttributes (write : α → Text) (attributes : List α) : Text :=
  attributes.flatMap fun entry => ' ' :: write entry

namespace Forest

/-- What the tags and the attributes of elements give, in the order of the text. -/
def flatten {γ : Type} (tag : Text → List γ) (own : α → List γ) : Forest α → List γ
  | empty => []
  | closed name attributes behind =>
    tag name.opening ++ (attributes.flatMap own ++ (tag ['/', '>'] ++ behind.flatten tag own))
  | element name attributes inside behind =>
    tag name.opening ++ (attributes.flatMap own ++ (tag ['>'] ++ (inside.flatten tag own ++
      (tag name.closing ++ behind.flatten tag own))))

/-- The text of elements. -/
def print (write : α → Text) (forest : Forest α) : Text :=
  forest.flatten id fun entry => ' ' :: write entry

/-- All attributes in the order of the text. -/
def attributes (forest : Forest α) : List α := forest.flatten (fun _ => []) fun entry => [entry]

/-- Every attribute changed, the elements kept. -/
def map (change : α → β) : Forest α → Forest β
  | empty => empty
  | closed name attributes behind => closed name (attributes.map change) (behind.map change)
  | element name attributes inside behind =>
    element name (attributes.map change) (inside.map change) (behind.map change)

theorem print_closed (write : α → Text) (name : Name) (attributes : List α) (behind : Forest α) :
    (closed name attributes behind).print write =
      name.opening ++ (printAttributes write attributes ++ (['/', '>'] ++ behind.print write)) := rfl

theorem print_element (write : α → Text) (name : Name) (attributes : List α)
    (inside behind : Forest α) :
    (element name attributes inside behind).print write =
      name.opening ++ (printAttributes write attributes ++ (['>'] ++ (inside.print write ++
        (name.closing ++ behind.print write)))) := rfl

theorem flatMap_attributes (own : α → List β) (forest : Forest α) :
    forest.attributes.flatMap own = forest.flatten (fun _ => []) own := by
  unfold attributes
  induction forest with
  | empty => rfl
  | closed name attributes behind ih => simp [flatten, ih]
  | element name attributes inside behind insideIh behindIh =>
    simp [flatten, insideIh, behindIh]

end Forest

namespace Root

/-- The inside of the root's tag. -/
def tag (write : α → Text) (root : Root α) : Text :=
  printAttributes write root.attributes ++ match root.inside? with
    | none => ['/']
    | some _ => []

/-- What is behind the root's tag. -/
def behindTag (write : α → Text) (root : Root α) : Text :=
  match root.inside? with
  | none => []
  | some inside => inside.print write ++ "</svg>".toList

/-- The text of an icon. -/
def print (write : α → Text) (root : Root α) : Text :=
  SvgTag.written (root.tag write) ++ root.behindTag write

/-- The root's name. -/
def name : Name := ⟨"svg".toList, Text.forall_mem_of_all (by decide)⟩

/-- The root as a forest of one element. -/
def forest (root : Root α) : Forest α :=
  match root.inside? with
  | none => .closed name root.attributes .empty
  | some inside => .element name root.attributes inside .empty

def map (change : α → β) (root : Root α) : Root β where
  attributes := root.attributes.map change
  inside? := root.inside?.map (Forest.map change)

theorem print_eq_forest_print (write : α → Text) (root : Root α) :
    root.print write = root.forest.print write := by
  obtain ⟨attributes, inside?⟩ := root
  cases inside? <;>
    simp [print, forest, Forest.print, Forest.flatten, printAttributes, tag, behindTag,
      SvgTag.written, SvgTag.opening, name, Name.opening, Name.closing]

end Root

/-! ### Text between attributes -/

/-- A text that ends a name or an attribute: it is at its end, or starts with a space or with a
bracket or slash of a tag. -/
def IsBorder (text : Text) : Prop := ∀ c ∈ text.head?, c ∈ [' ', '<', '>', '/']

theorem isBorder_nil : IsBorder [] := fun c same => by cases same

theorem isBorder_cons {c : Char} (border : c ∈ [' ', '<', '>', '/']) (text : Text) :
    IsBorder (c :: text) := by
  intro other same
  cases same
  exact border

theorem isBorder_printAttributes (write : α → Text) (attributes : List α) {behind : Text}
    (border : IsBorder behind) :
    IsBorder (printAttributes write attributes ++ behind) := by
  cases attributes with
  | nil => exact border
  | cons entry attributes => exact isBorder_cons (by decide) _

/-- A printed forest borders on what is in front of it. -/
theorem isBorder_print (write : α → Text) (forest : Forest α) {behind : Text}
    (border : IsBorder behind) : IsBorder (forest.print write ++ behind) := by
  cases forest with
  | empty => exact border
  | closed => exact isBorder_cons (by decide) _
  | element => exact isBorder_cons (by decide) _

/-- Text of tags without their attributes. -/
def IsGlue (text : Text) : Prop := ∀ c ∈ text, isNameChar c = true ∨ c ∈ ['<', '>', '/']

theorem Name.isGlue_opening (name : Name) : IsGlue name.opening := by
  intro c member
  rcases List.mem_cons.mp member with rfl | member
  · exact Or.inr (by decide)
  · exact Or.inl (name.plain c member)

theorem Name.isGlue_closing (name : Name) : IsGlue name.closing := by
  intro c member
  rcases List.mem_append.mp member with member | last
  · rcases List.mem_cons.mp member with rfl | member
    · exact Or.inr (by decide)
    · rcases List.mem_cons.mp member with rfl | member
      · exact Or.inr (by decide)
      · exact Or.inl (name.plain c member)
  · exact Or.inr (by rw [List.mem_singleton.mp last]; decide)

/-- A recogniser that finds nothing between attributes. -/
def RefusesGlue (recognise : Recogniser β) : Prop :=
  ∀ stretch behind, IsGlue stretch → IsBorder behind → recognise.Refuses stretch behind

/-! ### Scans of a forest -/

section Reading

variable {γ : Type} {read : Text → List γ} {write : α → Text} {own : α → List γ}

theorem read_printAttributes (attributes : List α) (behind : Text)
    (each : ∀ entry ∈ attributes, ∀ behind,
      read (' ' :: write entry ++ behind) = own entry ++ read behind) :
    read (printAttributes write attributes ++ behind) =
      attributes.flatMap own ++ read behind := by
  unfold printAttributes
  induction attributes with
  | nil => rfl
  | cons entry attributes ih =>
    have others := ih fun other member => each other (List.mem_cons_of_mem _ member)
    rw [List.flatMap_cons, List.flatMap_cons, List.append_assoc, List.append_assoc,
      each entry List.mem_cons_self, others]

/-- **What reads tags and attributes one after the other reads a forest so.** -/
theorem read_print (tag : Text → List γ)
    (glue : ∀ stretch behind, IsGlue stretch → IsBorder behind →
      read (stretch ++ behind) = tag stretch ++ read behind)
    (each : ∀ entry behind, read (' ' :: write entry ++ behind) = own entry ++ read behind)
    (forest : Forest α) {behind : Text} (border : IsBorder behind) :
    read (forest.print write ++ behind) = forest.flatten tag own ++ read behind := by
  induction forest generalizing behind with
  | empty => rfl
  | closed name attributes next ih =>
    have following := isBorder_print write next border
    have tagEnd : IsBorder (['/', '>'] ++ (next.print write ++ behind)) :=
      isBorder_cons (by decide) _
    simp only [Forest.print_closed, Forest.flatten, List.append_assoc]
    rw [glue _ _ name.isGlue_opening (isBorder_printAttributes _ _ tagEnd),
      read_printAttributes attributes _ fun entry _ => each entry,
      glue _ _ (Text.forall_mem_of_all (by decide)) following, ih border]
  | element name attributes inside next insideIh nextIh =>
    have following := isBorder_print write next border
    have close : IsBorder (name.closing ++ (next.print write ++ behind)) :=
      isBorder_cons (by decide) _
    have content := isBorder_print write inside close
    have tagEnd : IsBorder (['>'] ++ (inside.print write ++ (name.closing ++
      (next.print write ++ behind)))) := isBorder_cons (by decide) _
    simp only [Forest.print_element, Forest.flatten, List.append_assoc]
    rw [glue _ _ name.isGlue_opening (isBorder_printAttributes _ _ tagEnd),
      read_printAttributes attributes _ fun entry _ => each entry,
      glue _ _ (Text.forall_mem_of_all (by decide)) content, insideIh close,
      glue _ _ name.isGlue_closing following, nextIh border]

end Reading

variable {recognise : Recogniser β} {write : α → Text}

/-- **A scan of the text of a forest finds what it finds in the attributes.** -/
theorem hits_print {own : α → List β} (glue : RefusesGlue recognise)
    (each : ∀ entry behind,
      recognise.hits (' ' :: write entry ++ behind) = own entry ++ recognise.hits behind)
    (forest : Forest α) :
    recognise.hits (forest.print write) = forest.attributes.flatMap own := by
  have whole := read_print (fun _ => []) (fun stretch behind isGlue border =>
    Recogniser.hits_append_of_refuses (glue stretch behind isGlue border))
    each forest isBorder_nil
  rwa [List.append_nil, Recogniser.hits_nil, List.append_nil, ← Forest.flatMap_attributes] at whole

end IconComponents.Element
