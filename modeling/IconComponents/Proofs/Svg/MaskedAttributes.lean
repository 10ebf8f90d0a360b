/-
**The attributes of a masked document.**

Where the word stands alone in every style, the elements of a masked document have the same
attributes, each with its value masked: those that are plain, those that are declared, and those
that are inherited. So the same shapes are shown.

* `Setting.Masked`, `Attributes.Masked`, `Surroundings.Masked` — attributes with masked values;
* `Attributes.own_masked` — the attributes of an element;
* `shapesIn_masked`, `identifiersOf_masked` — the shapes of elements, and their identifiers.
-/

import IconComponents.Proofs.Svg.MaskedStyle
import IconComponents.Proofs.Svg.Shapes
import IconComponents.Proofs.Xml.Masking

namespace IconComponents.Svg

variable {mask text name : Text} {own own' : Attributes} {around around' : Surroundings}
  {written : List Xml.Attribute} {forest : Xml.Forest} {setting setting' : Setting}

/-! ### Values -/

/-- Two attributes of the same name, the value of the second one masked. -/
structure Setting.Masked (mask : Text) (setting setting' : Setting) : Prop where
  name : setting.name = setting'.name
  value : Aligned mask setting.value setting'.value
  important : setting.important = setting'.important

/-- Attributes with masked values. -/
def Attributes.Masked (mask : Text) (own own' : Attributes) : Prop :=
  List.Forall₂ (Setting.Masked mask) own own'

/-- Attributes of an element and of those around it with masked values. -/
def Surroundings.Masked (mask : Text) (around around' : Surroundings) : Prop :=
  List.Forall₂ (Attributes.Masked mask) around around'

theorem Attributes.setting?_masked (both : Attributes.Masked mask own own') (name : Text) :
    Option.Rel (Setting.Masked mask) (own.setting? name) (own'.setting? name) := by
  induction both with
  | nil => exact .none
  | @cons setting setting' own own' first _ ih =>
    unfold setting? at ih ⊢
    rw [List.find?_cons, List.find?_cons, ← first.name]
    split
    · exact .some first
    · exact ih

/-- Masked surroundings have the same settings, masked. -/
theorem Surroundings.setting?_masked (both : Surroundings.Masked mask around around')
    (name : Text) : Option.Rel (Setting.Masked mask) (around.setting? name)
      (around'.setting? name) := by
  induction both with
  | nil => exact .none
  | @cons own own' around around' first _ ih =>
    have here := Attributes.setting?_masked first name
    unfold setting? at ih ⊢
    rw [List.findSome?_cons, List.findSome?_cons]
    generalize own.setting? name = one at here
    generalize own'.setting? name = other at here
    cases here with
    | none => exact ih
    | some first => exact .some first

/-- The values of two attributes. -/
theorem rel_value {found found' : Option Setting}
    (both : Option.Rel (Setting.Masked mask) found found') :
    Option.Rel (Aligned mask) (found.map (·.value)) (found'.map (·.value)) := by
  cases both with
  | none => exact .none
  | some both => exact .some both.value

theorem Attributes.find?_masked (both : Attributes.Masked mask own own') (name : String) :
    Option.Rel (Aligned mask) (own.find? name) (own'.find? name) :=
  rel_value (setting?_masked both name.toList)

/-- Masked surroundings have the same values, masked. -/
theorem Surroundings.find?_masked (both : Surroundings.Masked mask around around')
    (name : String) : Option.Rel (Aligned mask) (around.find? name) (around'.find? name) :=
  rel_value (setting?_masked both name.toList)

/-! ### Inheritance -/

/-- What an attribute is where nothing is set does not hold the word. -/
theorem masked_unset {unset : String} (entry : paintingNames.lookup name = some (some unset)) :
    Setting.Masked mask ⟨name, unset.toList, false⟩ ⟨name, unset.toList, false⟩ := by
  have table : paintingNames.all fun entry => entry.2.all fun unset =>
      !mentionsCurrentColor unset.toList := by
    unfold paintingNames
    decide +kernel
  obtain ⟨_, _, split, -⟩ := List.lookup_eq_some_iff.mp entry
  have row := List.all_eq_true.mp table (name, some unset) (by rw [split]; simp)
  simp only [Option.all_some, Bool.not_eq_true'] at row
  exact ⟨rfl, ⟨(maskWith_of_silent row).symm⟩, rfl⟩

/-- What is inherited of masked surroundings is masked. -/
theorem Surroundings.inherited?_masked (both : Surroundings.Masked mask around around')
    {unset : Option String} (entry : paintingNames.lookup name = some unset) :
    Option.Rel (Setting.Masked mask) (around.inherited? name unset)
      (around'.inherited? name unset) := by
  have nearest : Option.Rel (Setting.Masked mask)
      (if personalNames.contains name then around.head?.bind (·.setting? name)
        else around.setting? name)
      (if personalNames.contains name then around'.head?.bind (·.setting? name)
        else around'.setting? name) := by
    split
    · cases both with
      | nil => exact .none
      | cons first _ => exact Attributes.setting?_masked first name
    · exact setting?_masked both name
  unfold inherited?
  simp only
  generalize (if personalNames.contains name then around.head?.bind (·.setting? name)
    else around.setting? name) = one at nearest
  generalize (if personalNames.contains name then around'.head?.bind (·.setting? name)
    else around'.setting? name) = other at nearest
  cases nearest with
  | some both => exact .some both
  | none =>
    cases unset with
    | none => exact .none
    | some unset => exact .some (masked_unset entry)

/-- **An attribute as it counts** has its value masked. -/
theorem Surroundings.resolve?_masked (isMask : IsMask mask)
    (both : Surroundings.Masked mask around around') (given : Setting.Masked mask setting setting') :
    Option.Rel (Setting.Masked mask) (around.resolve? setting) (around'.resolve? setting') := by
  unfold resolve?
  rw [← given.name]
  split
  · next unset entry =>
    have silent : mentionsCurrentColor "inherit".toList = false :=
      silent_of_isSolid ⟨by decide, List.all_eq_true.mp (by decide)⟩ (by decide)
    have asks := given.value.eq_iff isMask silent (by decide)
    by_cases inherits : setting.value = "inherit".toList
    · rw [if_pos inherits, if_pos (asks.mpr inherits)]
      exact inherited?_masked both entry
    · rw [if_neg inherits, if_neg (mt asks.mp inherits)]
      exact .some given
  · exact .some given

/-! ### Declarations -/

/-- Declaring a masked setting masks what is declared. -/
theorem Attributes.declare_masked (both : Attributes.Masked mask own own')
    (added : Setting.Masked mask setting setting') :
    Attributes.Masked mask (own.declare setting) (own'.declare setting') := by
  induction both with
  | nil => exact .cons added .nil
  | @cons here here' own own' first others ih =>
    unfold declare
    rw [← first.name, ← added.name, ← first.important]
    split
    · refine .cons ?_ others
      split
      · exact first
      · exact added
    · exact .cons first ih

/-- A masked declaration counts as the declaration does. -/
theorem Attributes.withDeclaration_masked (isMask : IsMask mask)
    (around_ : Surroundings.Masked mask around around') (both : Attributes.Masked mask own own')
    {declaration declaration' : Declaration} (given : declaration.Masked mask declaration') :
    Attributes.Masked mask (Attributes.withDeclaration around own declaration)
      (Attributes.withDeclaration around' own' declaration') := by
  unfold withDeclaration
  rw [← given.name]
  simp only
  split
  · have setting : Setting.Masked mask
        ⟨declaration.name, declaration.value, declaration.important⟩
        ⟨declaration.name, declaration'.value, declaration'.important⟩ :=
      ⟨rfl, given.value, given.important⟩
    have added := Surroundings.resolve?_masked isMask around_ setting
    generalize around.resolve? _ = one at added
    generalize around'.resolve? _ = other at added
    cases added with
    | none => exact both
    | some added => exact declare_masked both added
  · exact both

/-! ### Elements -/

/-- The namespaces that a drawing knows are no masked values. -/
theorem maskWith_beq_known (isMask : IsMask mask) {known : Text}
    (member : known ∈ [svgNamespace, linkNamespace, Xml.xmlNamespace]) (place : Text) :
    (maskWith mask place == known) = (place == known) := by
  have table : ∀ known ∈ [svgNamespace, linkNamespace, Xml.xmlNamespace],
      mentionsCurrentColor known = false ∧ '#' ∉ known := by decide +kernel
  obtain ⟨silent, unmarked⟩ := table known member
  rw [Bool.eq_iff_iff, beq_iff_eq, beq_iff_eq]
  exact maskWith_eq_iff_of_unmarked isMask silent unmarked

/-- Attributes are of the same space when masked. -/
theorem isOurAttribute_masked (isMask : IsMask mask) (given : Xml.Attribute) :
    isOurAttribute (given.masked mask) = isOurAttribute given := by
  obtain ⟨⟨space?, name⟩, value⟩ := given
  cases space? with
  | none => rfl
  | some place =>
    show (maskWith mask place == svgNamespace || maskWith mask place == linkNamespace ||
      maskWith mask place == Xml.xmlNamespace) = _
    rw [maskWith_beq_known isMask (by simp), maskWith_beq_known isMask (by simp),
      maskWith_beq_known isMask (by simp)]
    rfl

theorem isOurs_masked (isMask : IsMask mask) (name : Xml.Name) :
    isOurs (name.masked mask) = isOurs name := by
  obtain ⟨space?, name⟩ := name
  cases space? with
  | none => rfl
  | some place => exact maskWith_beq_known isMask (by simp) place

/-- Elements are known by their names, which no mask changes. -/
theorem isKnown_masked (isMask : IsMask mask) (name : Xml.Name) :
    isKnown (name.masked mask) = isKnown name := by
  rw [isKnown, isOurs_masked isMask]
  rfl

theorem styleOf_masked (written : List Xml.Attribute) :
    styleOf (written.map (·.masked mask)) = maskWith mask (styleOf written) := by
  have named (given : Xml.Attribute) : ((given.masked mask).name == ⟨none, "style".toList⟩) =
      (given.name == ⟨none, "style".toList⟩) := by
    obtain ⟨⟨space?, name⟩, value⟩ := given
    cases space? <;> rfl
  unfold styleOf
  induction written with
  | nil => exact maskWith_nil.symm
  | cons given written ih =>
    rw [List.map_cons, List.find?_cons, List.find?_cons, named]
    split
    · rfl
    · exact ih

/-- **The attributes of an element** have their values masked. -/
theorem Attributes.own_masked (isHashed : IsHashed mask)
    (both : Surroundings.Masked mask around around') (alone : StandsAlone (styleOf written)) :
    Attributes.Masked mask (Attributes.own around written)
      (Attributes.own around' (written.map (·.masked mask))) := by
  have isMask := isHashed.toIsMask
  have settings : Attributes.Masked mask
      ((written.filter isOurAttribute).filterMap fun given =>
        around.resolve? ⟨given.name.name, given.value, false⟩)
      (((written.map (·.masked mask)).filter isOurAttribute).filterMap fun given =>
        around'.resolve? ⟨given.name.name, given.value, false⟩) := by
    clear alone
    induction written with
    | nil => exact .nil
    | cons given written ih =>
      rw [List.map_cons, List.filter_cons, List.filter_cons, isOurAttribute_masked isMask]
      split
      · have setting : Setting.Masked mask ⟨given.name.name, given.value, false⟩
            ⟨(given.masked mask).name.name, (given.masked mask).value, false⟩ :=
          ⟨rfl, ⟨rfl⟩, rfl⟩
        have resolved := Surroundings.resolve?_masked isMask both setting
        rw [List.filterMap_cons, List.filterMap_cons]
        generalize around.resolve? _ = one at resolved ⊢
        generalize around'.resolve? _ = other at resolved ⊢
        cases resolved with
        | none => exact ih
        | some resolved => exact .cons resolved ih
      · exact ih
  have declared := declarations_masked alone isHashed
  rw [← styleOf_masked] at declared
  unfold own
  simp only
  generalize (written.filter isOurAttribute).filterMap _ = one at settings ⊢
  generalize ((written.map (·.masked mask)).filter isOurAttribute).filterMap _ = other at settings ⊢
  generalize declarations (styleOf written) = first at declared ⊢
  generalize declarations (styleOf (written.map (·.masked mask))) = second at declared ⊢
  induction declared generalizing one other with
  | nil => exact settings
  | cons first _ ih => exact ih _ _ (withDeclaration_masked isMask both settings first)

/-- What is hidden stays hidden. -/
theorem isHidden_masked (isMask : IsMask mask) (both : Attributes.Masked mask own own') :
    isHidden own' = isHidden own := by
  have display := Attributes.find?_masked both "display"
  unfold isHidden
  generalize own.find? "display" = one at display
  generalize own'.find? "display" = other at display
  cases display with
  | none => rfl
  | some value =>
    rw [Bool.eq_iff_iff, beq_iff_eq, beq_iff_eq, Option.some_inj, Option.some_inj]
    exact value.eq_iff isMask (by decide +kernel) (by decide)

/-! ### Shapes -/

/-- The word stands alone in the styles of all elements. -/
def StylesAlone : Xml.Forest → Prop
  | .empty => True
  | .aside behind => StylesAlone behind
  | .element _ written inside behind =>
    StandsAlone (styleOf written) ∧ StylesAlone inside ∧ StylesAlone behind

/-- Whether no element has a style. -/
def isUnstyled : Xml.Forest → Bool
  | .empty => true
  | .aside behind => isUnstyled behind
  | .element _ written inside behind =>
    (styleOf written).isEmpty && isUnstyled inside && isUnstyled behind

/-- Without styles the word stands alone in all of them. -/
theorem stylesAlone_of_unstyled (unstyled : isUnstyled forest = true) : StylesAlone forest := by
  induction forest with
  | empty => trivial
  | aside behind ih => exact ih unstyled
  | element name written inside behind inner outer =>
    simp only [isUnstyled, Bool.and_eq_true, List.isEmpty_iff] at unstyled
    obtain ⟨⟨style, insides⟩, others⟩ := unstyled
    exact ⟨style ▸ standsAlone_nil, inner insides, outer others⟩

/-- Two shapes of the same kind, with the values of the second one masked. -/
structure Shape.Masked (mask : Text) (shape shape' : Shape) : Prop where
  name : shape.name = shape'.name
  own : Attributes.Masked mask shape.own shape'.own
  around : Surroundings.Masked mask shape.around shape'.around

/-- **A masked document shows the same shapes**, with their values masked. -/
theorem shapesIn_masked (isHashed : IsHashed mask) (alone : StylesAlone forest)
    (both : Surroundings.Masked mask around around') :
    List.Forall₂ (Shape.Masked mask) (shapesIn around forest)
      (shapesIn around' (forest.masked mask)) := by
  have isMask := isHashed.toIsMask
  induction forest generalizing around around' with
  | empty => exact .nil
  | aside behind ih => exact ih alone both
  | element name written inside behind inner outer =>
    obtain ⟨style, insides, others⟩ := alone
    have own := Attributes.own_masked isHashed both style
    have others := outer others both
    unfold shapesIn Xml.Forest.masked
    simp only
    rw [isOurs_masked isMask, isHidden_masked isMask own]
    split
    · exact others
    · have same : (name.masked mask).name = name.name := rfl
      rw [same]
      split
      · exact List.rel_append (inner insides (.cons own both)) others
      split
      · exact .cons ⟨rfl, own, both⟩ others
      · exact others

/-- The identifiers of elements are masked. -/
theorem identifiersOf_masked (isHashed : IsHashed mask) (alone : StylesAlone forest)
    (both : Surroundings.Masked mask around around') :
    identifiersOf around' (forest.masked mask) =
      (identifiersOf around forest).map (maskWith mask) := by
  have isMask := isHashed.toIsMask
  induction forest generalizing around around' with
  | empty => rfl
  | aside behind ih => exact ih alone both
  | element name written inside behind inner outer =>
    obtain ⟨style, insides, others⟩ := alone
    have own := Attributes.own_masked isHashed both style
    have id := Attributes.find?_masked own "id"
    unfold identifiersOf Xml.Forest.masked
    simp only
    rw [isKnown_masked isMask, outer others both, inner insides (.cons own both)]
    split
    · rw [List.map_append, List.map_append]
      congr 2
      generalize (Attributes.own around written).find? "id" = one at id
      generalize (Attributes.own around' _).find? "id" = other at id
      cases id with
      | none => rfl
      | some id => rw [id.same]; rfl
    · rfl

end IconComponents.Svg
