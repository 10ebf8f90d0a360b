/-
**The tree of a masked document** is the tree of the document, with its values masked.

A document whose references are apart is read from its masked text: the same elements with the same
attributes stand at the same places, and every value is masked by itself. Namespaces are values,
too; the ones that a reader knows are not touched.

* `Forest.masked` — a tree with its values masked;
* `Masked` — what is known of both trees while their tokens are read;
* `Builder.step_masked`, `Builder.runWith_masked` — a token, and all of them;
* `read_masked` — the root of a masked document.
-/

import IconComponents.Proofs.Xml.Tokens
import IconComponents.Xml.Tree

namespace IconComponents.Xml

variable {mask text value lead place place' : Text} {entities entities' : Entities} {levels : Nat}

/-! ### Trees -/

/-- The scope with its namespaces masked. -/
def Scope.masked (mask : Text) (scope : Scope) : Scope :=
  scope.map fun (lead, uri) => (lead, maskWith mask uri)

/-- The name in its masked namespace. -/
def Name.masked (mask : Text) (name : Name) : Name :=
  ⟨name.space?.map (maskWith mask), name.name⟩

/-- The attribute with its value masked. -/
def Attribute.masked (mask : Text) (given : Attribute) : Attribute :=
  ⟨given.name.masked mask, maskWith mask given.value⟩

/-- The token with its values masked. -/
def PlacedToken.masked (mask : Text) : PlacedToken → PlacedToken
  | opening name attributes => opening (name.masked mask) (attributes.map (·.masked mask))
  | token => token

/-- The tree with its values masked. -/
def Forest.masked (mask : Text) : Forest → Forest
  | empty => empty
  | aside behind => aside (behind.masked mask)
  | element name attributes inside behind =>
    element (name.masked mask) (attributes.map (·.masked mask)) (inside.masked mask)
      (behind.masked mask)

/-- Planting a token masks with it. -/
theorem plant_masked (token : PlacedToken) (trees : List Forest) :
    plant (token.masked mask) (trees.map (·.masked mask)) =
      (plant token trees).map (·.masked mask) := by
  cases token with
  | closing => rfl
  | aside => cases trees <;> rfl
  | opening name attributes =>
    match trees with
    | [] => rfl
    | [inside] => rfl
    | inside :: behind :: outer => rfl

/-- The tree of masked tokens is the masked tree. -/
theorem forestOf_masked (tokens : List PlacedToken) :
    forestOf (tokens.map (·.masked mask)) = (forestOf tokens).masked mask := by
  have planted : (tokens.map (·.masked mask)).foldr plant [.empty] =
      (tokens.foldr plant [.empty]).map (·.masked mask) := by
    induction tokens with
    | nil => rfl
    | cons token tokens ih => rw [List.map_cons, List.foldr_cons, ih, plant_masked, List.foldr_cons]
  rw [forestOf, planted, List.head?_map, forestOf]
  cases (tokens.foldr plant [.empty]).head? <;> rfl

/-! ### Namespaces -/

theorem Scope.masked_append (scope other : Scope) :
    (scope ++ other).masked mask = scope.masked mask ++ other.masked mask :=
  List.map_append

/-- A lead stands for the masked name of the space that it stood for. -/
theorem Scope.lookup_masked (scope : Scope) (lead : Text) :
    (scope.masked mask).lookup lead = (scope.lookup lead).map (maskWith mask) := by
  induction scope with
  | nil => rfl
  | cons given scope ih =>
    obtain ⟨other, uri⟩ := given
    rw [masked, List.map_cons, List.lookup_cons, List.lookup_cons]
    split
    · rfl
    · exact ih

/-- A lead with a meaning in a masked scope has one in the scope. -/
theorem Scope.find_masked {scope : Scope} {space? : Option Text}
    (found : (scope.masked mask).find lead place' = .ok space?) :
    ∃ original, scope.find lead place = .ok original ∧ space? = original.map (maskWith mask) := by
  unfold find at found ⊢
  rw [lookup_masked] at found
  cases known : scope.lookup lead with
  | some uri =>
    rw [known] at found
    cases found
    exact ⟨_, rfl, rfl⟩
  | none =>
    rw [known, Option.map_none] at found
    simp only at found
    split at found
    · next default =>
      cases found
      exact ⟨none, if_pos default, rfl⟩
    · cases found

/-- The namespaces that a reader knows are no masked values. -/
theorem maskWith_eq_known_iff (isMask : IsMask mask) {known : Text}
    (member : known = xmlNamespace ∨ known = declaringNamespace) :
    maskWith mask value = known ↔ value = known := by
  rcases member with rfl | rfl <;>
  exact maskWith_eq_iff_of_unmarked isMask (by decide +kernel) (by decide)

/-- Attributes declare the same leads. -/
theorem declared?_masked (isMask : IsMask mask) {name : QualifiedName} {own : Scope}
    {declared : Option Scope}
    (found : declared? name (maskWith mask value) place' (own.masked mask) = .ok declared) :
    ∃ original, declared? name value place own = .ok original ∧
      declared = original.map (·.masked mask) := by
  unfold declared? at found ⊢
  rw [Scope.lookup_masked, Option.isSome_map] at found
  simp only [maskWith_eq_known_iff isMask (Or.inl rfl),
    maskWith_eq_known_iff isMask (Or.inr rfl)] at found
  grind [Scope.masked]

/-! ### Opening tags -/

/-- An attribute of an opening tag and the masked one; where they stand is left open. -/
structure DecodedAttribute.Masked (mask : Text) (decoded decoded' : DecodedAttribute) : Prop where
  name : decoded'.name = decoded.name
  value : Aligned mask decoded.value decoded'.value

/-- Names that stay different where their namespaces are masked are different. -/
theorem any_name_masked {found : List Attribute} {name : Name}
    (fresh : (found.map (·.masked mask)).any (·.name == name.masked mask) = false) :
    found.any (·.name == name) = false := by
  rw [List.any_eq_false] at fresh ⊢
  intro given member same
  obtain rfl := beq_iff_eq.mp same
  exact fresh _ (List.mem_map_of_mem member) (beq_iff_eq.mpr rfl)

theorem bind_eq_ok_iff {α β : Type} {first : Except Error α} {next : α → Except Error β}
    {result : β} : (first >>= next) = .ok result ↔ ∃ found, first = .ok found ∧
      next found = .ok result := by
  cases first with
  | error error => exact ⟨nofun, nofun⟩
  | ok found =>
    refine ⟨fun same => ⟨found, rfl, same⟩, ?_⟩
    rintro ⟨_, same, read⟩
    cases same
    exact read

/-- The namespace of an attribute. -/
def DecodedAttribute.space (scope : Scope) (decoded : DecodedAttribute) :
    Except Error (Option Text) :=
  if decoded.name.lead = xmlPrefix then .ok (some xmlNamespace)
  else if decoded.name.lead.isEmpty then .ok none
  else scope.find decoded.name.lead decoded.place

/-- An attribute with a space in a masked scope has one in the scope. -/
theorem DecodedAttribute.space_masked (isMask : IsMask mask) {scope : Scope}
    {decoded decoded' : DecodedAttribute} {space? : Option Text}
    (both : decoded.Masked mask decoded')
    (placed : decoded'.space (scope.masked mask) = .ok space?) :
    ∃ original, decoded.space scope = .ok original ∧ space? = original.map (maskWith mask) := by
  unfold space at placed ⊢
  rw [both.name] at placed
  split at placed
  · next special =>
    cases placed
    refine ⟨some xmlNamespace, if_pos special, ?_⟩
    rw [Option.map_some, (maskWith_eq_known_iff isMask (Or.inl rfl)).mpr rfl]
  · next other =>
    rw [if_neg other]
    split at placed
    · next plain =>
      cases placed
      exact ⟨none, if_pos plain, rfl⟩
    · next led =>
      rw [if_neg led]
      exact Scope.find_masked placed

/-- Attributes are resolved one after the other, each under a name of its own. -/
theorem resolve_cons_eq_ok_iff {scope : Scope} {decoded : DecodedAttribute}
    {others : List DecodedAttribute} {found attributes : List Attribute} :
    resolve scope (decoded :: others) found = .ok attributes ↔
      ∃ space?, decoded.space scope = .ok space? ∧
        found.any (·.name == ⟨space?, decoded.name.name⟩) = false ∧
        resolve scope others (⟨⟨space?, decoded.name.name⟩, decoded.value⟩ :: found) =
          .ok attributes := by
  have placed : resolve scope (decoded :: others) found =
      decoded.space scope >>= fun space? =>
        if found.any (·.name == ⟨space?, decoded.name.name⟩) then
          .error (.here (.duplicateAttribute decoded.name.name) decoded.place)
        else resolve scope others (⟨⟨space?, decoded.name.name⟩, decoded.value⟩ :: found) := by
    rw [resolve, DecodedAttribute.space]
    split
    · rfl
    · split <;> rfl
  rw [placed, bind_eq_ok_iff]
  refine exists_congr fun space? => and_congr_right fun _ => ?_
  split
  · next twice => simp [twice]
  · next fresh => simp [fresh]

/-- Attributes that are resolved in masked form are resolved as they are. -/
theorem resolve_masked (isMask : IsMask mask) {scope : Scope}
    {decoded decoded' : List DecodedAttribute} {found attributes' : List Attribute}
    (both : List.Forall₂ (DecodedAttribute.Masked mask) decoded decoded')
    (resolved : resolve (scope.masked mask) decoded' (found.map (·.masked mask)) =
      .ok attributes') :
    ∃ attributes, resolve scope decoded found = .ok attributes ∧
      attributes' = attributes.map (·.masked mask) := by
  induction both generalizing found with
  | nil =>
    cases resolved
    exact ⟨_, rfl, List.map_reverse.symm⟩
  | @cons given given' others others' both _ ih =>
    obtain ⟨space', placed', fresh, rest'⟩ := resolve_cons_eq_ok_iff.mp resolved
    obtain ⟨space, placed, rfl⟩ := DecodedAttribute.space_masked isMask both placed'
    rw [both.name] at fresh rest'
    rw [both.value.same] at rest'
    have named : (found.map (·.masked mask)).any
        (·.name == Name.masked mask ⟨space, given.name.name⟩) = false := fresh
    obtain ⟨attributes, read, rest⟩ : ∃ attributes,
        resolve scope others (⟨⟨space, given.name.name⟩, given.value⟩ :: found) = .ok attributes ∧
          attributes' = attributes.map (·.masked mask) := ih rest'
    exact ⟨attributes, resolve_cons_eq_ok_iff.mpr ⟨space, placed, any_name_masked named, read⟩,
      rest⟩

/-! ### Builders -/

/-- Two trees while their tokens are read: the same elements are open, and all values of the second
one are masked. -/
structure Builder.Masked (mask : Text) (builder builder' : Builder) : Prop where
  stack : builder'.stack = builder.stack.map fun (name, scope) => (name, scope.masked mask)
  name : builder'.tag.name = builder.tag.name
  scope : builder'.tag.scope = builder.tag.scope.masked mask
  attributes : List.Forall₂ (DecodedAttribute.Masked mask) builder.tag.attributes
    builder'.tag.attributes
  hasTag : builder'.hasTag = builder.hasTag
  references : builder'.references = builder.references
  placed : builder'.placed = builder.placed.map (·.masked mask)

namespace Builder

variable {builder builder' after' : Builder}

theorem masked_fresh : Masked mask fresh fresh := ⟨rfl, rfl, rfl, .nil, rfl, rfl, rfl⟩

/-- A tag that is opened in masked form is opened. -/
theorem start_masked (isMask : IsMask mask) (both : Masked mask builder builder')
    {opening' : PlacedToken} {scope' : Scope} (started : builder'.start = .ok (opening', scope')) :
    ∃ opening scope, builder.start = .ok (opening, scope) ∧
      opening' = opening.masked mask ∧ scope' = scope.masked mask := by
  have scopes : builder'.tag.scope ++ (builder'.stack.head?.map (·.2)).getD [] =
      (builder.tag.scope ++ (builder.stack.head?.map (·.2)).getD []).masked mask := by
    rw [both.scope, both.stack, Scope.masked_append]
    cases builder.stack <;> rfl
  unfold start at started ⊢
  simp only [bind_eq_ok_iff, scopes, both.name] at started ⊢
  obtain ⟨attributes', resolved', space', found', same⟩ := started
  obtain ⟨attributes, resolved, rfl⟩ : ∃ attributes,
      resolve (builder.tag.scope ++ (builder.stack.head?.map (·.2)).getD [])
          builder.tag.attributes [] = .ok attributes ∧
        attributes' = attributes.map (·.masked mask) :=
    resolve_masked isMask both.attributes resolved'
  obtain ⟨space, found, rfl⟩ : ∃ space,
      (builder.tag.scope ++ (builder.stack.head?.map (·.2)).getD []).find builder.tag.name.lead
          (builder.tag.place.drop 1) = .ok space ∧ space' = space.map (maskWith mask) :=
    Scope.find_masked found'
  cases same
  exact ⟨_, _, ⟨attributes, resolved, space, found, rfl⟩, rfl, rfl⟩

/-- A tag that is closed in masked form is closed. -/
theorem close_masked (both : Masked mask builder builder') {name : QualifiedName}
    (closed : builder'.close name place' = .ok after') :
    ∃ after, builder.close name place = .ok after ∧ Masked mask after after' := by
  unfold close at closed ⊢
  rw [both.stack, both.hasTag] at closed
  split at closed
  · cases closed
  · next expected scope' stack' split' =>
    obtain ⟨⟨expected, scope⟩, stack, split, same, rfl⟩ := List.map_eq_cons_iff.mp split'
    obtain ⟨rfl, -⟩ := Prod.mk.inj same
    rw [split]
    simp only
    split at closed
    · cases closed
    · next hasTag =>
      split at closed
      · next matched =>
        cases closed
        rw [if_neg hasTag, if_pos matched]
        refine ⟨_, rfl, rfl, both.name, both.scope, both.attributes, rfl, both.references, ?_⟩
        exact congrArg (PlacedToken.closing :: ·) both.placed
      · cases closed

/-- An attribute with a value declares something or is kept. -/
def added (builder : Builder) (written : WrittenAttribute) (value : Text) (references : Nat) :
    Option Scope → Builder
  | some more =>
    { builder with references, tag := { builder.tag with scope := builder.tag.scope ++ more } }
  | none => { builder with
      references
      tag := { builder.tag with
        attributes := builder.tag.attributes ++ [⟨written.name, value, written.place⟩] } }

/-- When an attribute is given to a tag, and what comes of it. -/
theorem give_eq_ok_iff {written : WrittenAttribute} {after : Builder} :
    builder.give entities levels written = .ok after ↔
      ∃ decoded, decode entities levels builder.references written.behind written.value =
        .ok decoded ∧ ∃ declared, declared? written.name decoded.1 written.place
          builder.tag.scope = .ok declared ∧
            builder.added written decoded.1 decoded.2 declared = after := by
  unfold give
  rw [bind_eq_ok_iff]
  refine exists_congr fun decoded => and_congr_right fun _ => ?_
  rw [bind_eq_ok_iff]
  refine exists_congr fun declared => and_congr_right fun _ => ?_
  cases declared with
  | some more => exact ⟨Except.ok.inj, congrArg _⟩
  | none => exact ⟨Except.ok.inj, congrArg _⟩

/-- An attribute that is given in masked form is given. -/
theorem give_masked (isMask : IsMask mask) (both : Masked mask builder builder')
    {written written' : WrittenAttribute} (name : written.name = written'.name)
    (apart : RefersApart written.value) (value : Aligned mask written.value written'.value)
    (given : builder'.give entities' levels written' = .ok after') :
    ∃ after, builder.give entities levels written = .ok after ∧ Masked mask after after' := by
  obtain ⟨decoded', done', declared', found', rfl⟩ := give_eq_ok_iff.mp given
  rw [both.references, value.same] at done'
  obtain ⟨decoded, done, same⟩ : ∃ decoded,
      decode entities levels builder.references written.behind written.value =
        .ok (decoded, decoded'.2) ∧ decoded'.1 = maskWith mask decoded :=
    decode_masked isMask apart done'
  rw [same, ← name, both.scope] at found'
  obtain ⟨declared, found, rfl⟩ : ∃ declared,
      declared? written.name decoded written.place builder.tag.scope =
        .ok declared ∧ declared' = declared.map (·.masked mask) := declared?_masked isMask found'
  refine ⟨_, give_eq_ok_iff.mpr ⟨_, done, declared, found, rfl⟩, ?_⟩
  cases declared with
  | some more =>
    refine ⟨both.stack, both.name, ?_, both.attributes, both.hasTag, rfl, both.placed⟩
    exact (congrArg (· ++ more.masked mask) both.scope).trans (Scope.masked_append _ _).symm
  | none =>
    refine ⟨both.stack, both.name, both.scope, ?_, both.hasTag, rfl, both.placed⟩
    exact List.rel_append both.attributes (.cons ⟨name.symm, ⟨same⟩⟩ .nil)

/-- **A token** goes into both trees. -/
theorem step_masked (isMask : IsMask mask) (both : Masked mask builder builder')
    {token token' : Token} (matched : Matches mask token token')
    (read : builder'.step entities' levels token' = .ok after') :
    ∃ after, builder.step entities levels token = .ok after ∧ Masked mask after after' := by
  cases matched with
  | opening name place place' =>
    rw [step] at read
    split at read
    · cases read
    · next other =>
      cases read
      exact ⟨_, if_neg other, both.stack, rfl, rfl, .nil, rfl, both.references, both.placed⟩
  | given name apart value => exact give_masked isMask both name apart value read
  | inside =>
    obtain ⟨⟨opening', scope'⟩, started', same⟩ := bind_eq_ok_iff.mp read
    obtain ⟨opening, scope, started, rfl, rfl⟩ := start_masked isMask both started'
    cases same
    refine ⟨_, bind_eq_ok_iff.mpr ⟨_, started, rfl⟩, ?_, both.name, both.scope, both.attributes,
      both.hasTag, both.references, congrArg (opening.masked mask :: ·) both.placed⟩
    exact congrArg₂ (fun name stack => (name, scope.masked mask) :: stack) both.name both.stack
  | vacant =>
    obtain ⟨⟨opening', scope'⟩, started', same⟩ := bind_eq_ok_iff.mp read
    obtain ⟨opening, scope, started, rfl, rfl⟩ := start_masked isMask both started'
    cases same
    exact ⟨_, bind_eq_ok_iff.mpr ⟨_, started, rfl⟩, both.stack, both.name, both.scope,
      both.attributes, both.hasTag, both.references,
      congrArg (PlacedToken.closing :: opening.masked mask :: ·) both.placed⟩
  | closing name place place' => exact close_masked both read
  | aside =>
    cases read
    exact ⟨_, rfl, both.stack, both.name, both.scope, both.attributes, both.hasTag,
      both.references, congrArg (PlacedToken.aside :: ·) both.placed⟩

/-! ### All tokens -/

variable {deeper? : Option (Builder → List Token → Except Error Builder)}

theorem runWith_cons {token : Token} {tokens : List Token}
    (direct : ∀ passage behind, token ≠ .expansion passage behind) :
    runWith entities levels deeper? builder (token :: tokens) =
      builder.step entities levels token >>= fun after =>
        runWith entities levels deeper? after tokens := by
  cases token with
  | expansion passage behind => exact absurd rfl (direct passage behind)
  | _ => rfl

/-- Tokens that make a tree have no fault. -/
theorem isSound_of_runWith {tokens : List Token}
    (run : runWith entities levels deeper? builder tokens = .ok after') : IsSound tokens := by
  induction tokens generalizing builder with
  | nil => exact fun _ => List.not_mem_nil
  | cons token tokens ih =>
    have first : (∀ error, token ≠ .fault error) ∧
        ∃ next, runWith entities levels deeper? next tokens = .ok after' := by
      cases token with
      | expansion passage behind =>
        unfold runWith at run
        split at run
        · obtain ⟨inner, -, run⟩ := bind_eq_ok_iff.mp run
          exact ⟨nofun, _, run⟩
        · cases run
      | fault error => cases run
      | _ =>
        obtain ⟨next, -, run⟩ := bind_eq_ok_iff.mp run
        exact ⟨nofun, next, run⟩
    obtain ⟨direct, next, run⟩ := first
    intro error member
    rcases List.mem_cons.mp member with rfl | member
    · exact direct error rfl
    · exact ih run error member

/-- Tokens that build a masked tree build the tree. -/
theorem runWith_masked (isMask : IsMask mask)
    {deeper'? : Option (Builder → List Token → Except Error Builder)}
    (both : Masked mask builder builder') {tokens tokens' : List Token}
    (matched : List.Forall₂ (Matches mask) tokens tokens')
    (run : runWith entities' levels deeper'? builder' tokens' = .ok after') :
    ∃ after, runWith entities levels deeper? builder tokens = .ok after ∧
      Masked mask after after' := by
  induction matched generalizing builder builder' with
  | nil =>
    cases run
    exact ⟨builder, rfl, both⟩
  | cons first _ ih =>
    rw [runWith_cons first.not_expansion.2] at run
    obtain ⟨next', read', run'⟩ := bind_eq_ok_iff.mp run
    obtain ⟨next, read, both'⟩ := step_masked isMask both first read'
    obtain ⟨after, run, both''⟩ := ih both' run'
    exact ⟨after, (runWith_cons first.not_expansion.1).trans
      (bind_eq_ok_iff.mpr ⟨next, read, run⟩), both''⟩

end Builder

/-- A text has a tree exactly if its tokens build one, with all its tags closed. -/
theorem read_eq_ok_iff {forest : Forest} :
    read text = .ok forest ↔ ∃ builder, Builder.run (tokensOf text).1 deepestReference .fresh
        (tokensOf text).2 = .ok builder ∧ builder.placed.isEmpty = false ∧
      builder.stack.isEmpty = true ∧ forestOf builder.placed.reverse = forest := by
  unfold read
  simp only [bind_eq_ok_iff]
  refine exists_congr fun builder => and_congr_right fun _ => ?_
  split
  · next rootless => simp [rootless]
  · next root =>
    split
    · next unclosed => simp_all
    · next closed => simp_all

/-- **The tree of a masked document** is the tree of the document, masked. -/
theorem read_masked (isMask : IsMask mask) (apart : RefersApart text) {forest' : Forest}
    (read' : read (maskWith mask text) = .ok forest') :
    ∃ forest, read text = .ok forest ∧ forest' = forest.masked mask := by
  obtain ⟨builder', run', root, closed, rfl⟩ := read_eq_ok_iff.mp read'
  have matched := tokensOf_matches isMask apart (Builder.isSound_of_runWith run')
  obtain ⟨builder, run, both⟩ := Builder.runWith_masked isMask Builder.masked_fresh matched run'
  rw [both.placed, List.isEmpty_map] at root
  rw [both.stack, List.isEmpty_map] at closed
  refine ⟨_, read_eq_ok_iff.mpr ⟨builder, run, root, closed, rfl⟩, ?_⟩
  rw [both.placed, ← List.map_reverse, forestOf_masked]

end IconComponents.Xml
