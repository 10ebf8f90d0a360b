/-
**Templates that embed the icon.**

A template can write the icon itself. Whether the text that is rendered is then left alone depends on
its first svg tag, and that is the icon's own, unless parts of the text that hold none make one
together. An icon whose root is open stands as given. An icon whose root closes at once is taken for a
place for itself: its attributes, and what is behind its tag, are written twice.

Who renders the template does not matter, as long as a rendered text is put together of the icon,
parts of the template's own text, parts of other fields, and what holds no bracket.

* `Share`, `Engines.Assembly` — the shares of a rendered text, and where they come from;
* `Template.assembly` — the templates of the library are rendered so;
* `Text.not_infix_flatMap` — a text that parts make together starts at the end of one of them;
* `eq_of_doubled` — when nothing is there to be written twice;
* `write_embedded` — what becomes of an embedded icon, for all templates and payloads.
-/

import Mathlib.Data.List.Infix
import IconComponents.Proofs.Template.Outline
import IconComponents.Proofs.Template.Provenance

namespace IconComponents

/-! ### Shares of a text -/

/-- A share of a rendered text: the icon, or another text. -/
inductive Share where
  | icon
  | other (text : Text)
  deriving DecidableEq

namespace Share

/-- The text of a share. -/
def written (svg : Text) : Share → Text
  | icon => svg
  | other text => text

/-- The shares in front of the first icon. -/
def ahead (shares : List Share) : List Share := shares.takeWhile (· != icon)

/-- The text in front of the first icon. -/
def textAhead (svg : Text) (shares : List Share) : Text := (ahead shares).flatMap (·.written svg)

/-- The text behind the first icon, which may hold it again. -/
def textBehind (svg : Text) (shares : List Share) : Text :=
  (shares.dropWhile (· != icon)).tail.flatMap (·.written svg)

/-- **The icon stands as given** between what is in front of it and what is behind it. -/
theorem flatMap_written {shares : List Share} (embeds : icon ∈ shares) (svg : Text) :
    shares.flatMap (·.written svg) = textAhead svg shares ++ (svg ++ textBehind svg shares) := by
  obtain ⟨before, after, rfl, first⟩ := List.eq_append_cons_of_mem embeds
  have passes : ∀ share ∈ before, (share != icon) = true := fun share member =>
    bne_iff_ne.mpr fun same => first (same ▸ member)
  rw [textAhead, ahead, textBehind, List.takeWhile_append_of_pos passes,
    List.dropWhile_append_of_pos passes, List.takeWhile_cons_of_neg (by decide),
    List.dropWhile_cons_of_neg (by decide), List.append_nil, List.tail_cons, List.flatMap_append,
    List.flatMap_cons]
  rfl

end Share

/-- The name of the field that holds the icon. -/
def iconField : Text := "svg".toList

/-- How those who render put their texts together: each template has words of its own, and what is
rendered of it for a payload are shares, which are the icon, parts of these words, parts of other
fields, or texts without a bracket, such as numbers and names. -/
structure Engines.Assembly (engines : Engines) where
  ownWords : engines.Template → List Text
  shares : engines.Template → Payload → List Share
  whole : ∀ {template payload text}, engines.render template payload = .ok text →
    text = (shares template payload).flatMap (·.written payload.svg)
  source : ∀ {template payload text}, Share.other text ∈ shares template payload →
    (∃ words ∈ ownWords template, text <:+: words) ∨
      (∃ name value, payload.field? name = some value ∧ name ≠ iconField ∧
        text <:+: value.written) ∨ '<' ∉ text

/-! ### The templates of the library -/

namespace Template

/-- What a template writes for a payload, share by share. -/
def shares (payload : Payload) : Template → List Share
  | done => []
  | text words rest => .other words :: rest.shares payload
  | field _ reference rest =>
    (if reference.fieldName? = some iconField then .icon
      else .other (((payload.resolve reference).map FieldValue.written).getD [])) ::
        rest.shares payload
  | call _ _ rest => rest.shares payload
  | inclusion _ _ _ _ => []
  | block _ helper body alternative rest =>
    (match helper.takesBody payload with
      | .ok true => body.shares payload
      | .ok false => alternative.shares payload
      | .error _ => []) ++ rest.shares payload

/-- All words of a template, also those that are not written. -/
def ownWords : Template → List Text
  | done => []
  | text words rest => words :: rest.ownWords
  | field _ _ rest => rest.ownWords
  | call _ _ rest => rest.ownWords
  | inclusion _ _ _ rest => rest.ownWords
  | block _ _ body alternative rest => body.ownWords ++ alternative.ownWords ++ rest.ownWords

end Template

variable {payload : Payload} {template : Template} {text : Text}

/-- **A template writes its shares.** -/
theorem text_eq_of_render (rendered : template.render payload = .ok text) :
    text = (template.shares payload).flatMap (·.written payload.svg) := by
  induction template generalizing text with
  | done =>
    cases rendered
    rfl
  | text words rest ih =>
    obtain ⟨behind, restRendered, rfl⟩ := render_text_eq_ok_iff.mp rendered
    rw [Template.shares, List.flatMap_cons, ← ih restRendered, Share.written]
  | field position reference rest ih =>
    obtain ⟨value, behind, found, restRendered, rfl⟩ := render_field_eq_ok_iff.mp rendered
    rw [Template.shares, List.flatMap_cons, ← ih restRendered]
    split
    · next icon =>
      rw [resolve_of_fieldName? icon] at found
      cases found
      rfl
    · rw [found]
      rfl
  | call position helper rest ih =>
    rw [Template.render] at rendered
    split at rendered
    · cases rendered
    · exact ih rendered
  | inclusion position name parameters rest ih => cases rendered
  | block position helper body alternative rest ihBody ihAlternative ihRest =>
    obtain ⟨taken, chosen, behind, decided, branch, restRendered, rfl⟩ :=
      render_block_eq_ok_iff.mp rendered
    rw [Template.shares, decided, List.flatMap_append, ← ihRest restRendered]
    cases taken with
    | true => rw [ihBody branch]
    | false => rw [ihAlternative branch]

/-- The value of a reference is that of a field, or holds no bracket. -/
theorem written_resolve (payload : Payload) (reference : Reference) :
    (∃ name value, reference.fieldName? = some name ∧ payload.field? name = some value ∧
        ((payload.resolve reference).map FieldValue.written).getD [] = value.written) ∨
      '<' ∉ ((payload.resolve reference).map FieldValue.written).getD [] := by
  obtain ⟨written, isLocal, names⟩ := reference
  rw [Payload.resolve]
  cases isLocal with
  | true => exact Or.inr List.not_mem_nil
  | false =>
    match names with
    | [] =>
      have none : '<' ∉ "[object]".toList := by decide
      exact Or.inr none
    | [name] =>
      show (∃ name' value, some name = some name' ∧ payload.field? name' = some value ∧
          ((payload.field? name).map FieldValue.written).getD [] = value.written) ∨
        '<' ∉ ((payload.field? name).map FieldValue.written).getD []
      cases found : payload.field? name with
      | none => exact Or.inr List.not_mem_nil
      | some value => exact Or.inl ⟨name, value, rfl, found, rfl⟩
    | _ :: _ :: _ => exact Or.inr List.not_mem_nil

/-- **Where the shares of a template come from.** -/
theorem source_of_mem_shares (member : Share.other text ∈ template.shares payload) :
    (∃ words ∈ template.ownWords, text <:+: words) ∨
      (∃ name value, payload.field? name = some value ∧ name ≠ iconField ∧
        text <:+: value.written) ∨ '<' ∉ text := by
  induction template with
  | done => cases member
  | text own rest ih =>
    rcases List.mem_cons.mp member with same | member
    · cases same
      exact Or.inl ⟨_, List.mem_cons_self, List.infix_refl _⟩
    · exact (ih member).imp_left fun ⟨words, among, inside⟩ =>
        ⟨words, List.mem_cons_of_mem _ among, inside⟩
  | field position reference rest ih =>
    rcases List.mem_cons.mp member with same | member
    · split at same
      · cases same
      · next other =>
        cases same
        rcases written_resolve payload reference with ⟨name, value, named, found, same⟩ | free
        · rw [same]
          exact Or.inr (Or.inl ⟨name, value, found, fun icon => other (icon ▸ named),
            List.infix_refl _⟩)
        · exact Or.inr (Or.inr free)
    · exact ih member
  | call position helper rest ih => exact ih member
  | inclusion position name parameters rest ih => cases member
  | block position helper body alternative rest ihBody ihAlternative ihRest =>
    have widen {inner : List Text} (within : inner ⊆
        (Template.block position helper body alternative rest).ownWords)
        (found : ∃ words ∈ inner, text <:+: words) :
        ∃ words ∈ (Template.block position helper body alternative rest).ownWords,
          text <:+: words :=
      found.imp fun words both => ⟨within both.1, both.2⟩
    rw [Template.ownWords] at widen ⊢
    rcases List.mem_append.mp member with inside | behind
    · split at inside
      · exact (ihBody inside).imp_left (widen (by simp))
      · exact (ihAlternative inside).imp_left (widen (by simp))
      · cases inside
    · exact (ihRest behind).imp_left (widen (by simp))

/-- The templates of the library are put together so. -/
def Template.assembly : Engines.standard.Assembly where
  ownWords := Template.ownWords
  shares template payload := Template.shares payload template
  whole {template payload text} rendered := by
    change (Template.render payload template).mapError RenderError.message = .ok text at rendered
    cases made : Template.render payload template with
    | error error => rw [made] at rendered; cases rendered
    | ok other =>
      rw [made] at rendered
      cases rendered
      exact text_eq_of_render made
  source := source_of_mem_shares

/-! ### Texts that parts make together -/

namespace Text

/-- A text ends in a start of another one. -/
def EndsWithin (needle text : Text) : Prop :=
  ∃ front back, front ≠ [] ∧ back ≠ [] ∧ needle = front ++ back ∧ front <:+ text

/-- **What parts make together starts at the end of one of them.** -/
theorem not_infix_flatMap {α : Type} {needle : Text} {write : α → Text} {parts : List α}
    (nonempty : needle ≠ []) (free : ∀ part ∈ parts, ¬ needle <:+: write part)
    (apart : ∀ part ∈ parts, ¬ EndsWithin needle (write part)) :
    ¬ needle <:+: parts.flatMap write := by
  induction parts with
  | nil => exact fun inside => nonempty (List.infix_nil.mp inside)
  | cons part parts ih =>
    obtain ⟨partFree, free⟩ := List.forall_mem_cons.mp free
    obtain ⟨partApart, apart⟩ := List.forall_mem_cons.mp apart
    rw [List.flatMap_cons, List.infix_append_iff_ne_nil]
    rintro (inside | behind | ⟨front, back, frontSome, backSome, split, ends, -⟩)
    · exact partFree inside
    · exact ih free apart behind
    · exact partApart ⟨front, back, frontSome, backSome, split, ends⟩

end Text

/-! ### The icon's own tag -/

namespace SvgTag

/-- A text that starts with its first tag. -/
theorem eq_written_of_find? {inside rest : Text} (first : find? text = some ([], inside, rest)) :
    text = written inside ++ rest ∧ '>' ∉ inside ∧
      Text.wordEnds (inside ++ '>' :: rest) = true := by
  obtain ⟨shape, free, ends⟩ := of_find? first
  exact ⟨shape.trans (by simp [written]), free, ends⟩

/-- The inside of a tag that closes at once. -/
theorem exists_inside_closed {text : Text} (closed : (inside text).closed = true) :
    ∃ blanks, text = (inside text).attributes ++ (blanks ++ ['/']) ∧
      (∀ c ∈ blanks, Char.isBlank c = true) ∧ Text.EndsSolid (inside text).attributes := by
  unfold inside at closed ⊢
  split
  · next slash =>
    obtain ⟨front, rfl⟩ := List.getLast?_eq_some_iff.mp slash
    obtain ⟨blanks, split, blank, solid⟩ := Text.exists_trimEnd front
    rw [List.dropLast_concat]
    exact ⟨blanks, by rw [← List.append_assoc, ← split], blank, solid⟩
  · next open' =>
    rw [if_neg open'] at closed
    cases closed

theorem eq_nil_of_blank (solid : Text.EndsSolid text) (blank : ∀ c ∈ text, Char.isBlank c = true) :
    text = [] := by
  rcases List.eq_nil_or_concat' text with empty | ⟨front, last, rfl⟩
  · exact empty
  · have solid := solid last (by simp)
    rw [blank last (by simp)] at solid
    cases solid

/-- **Nothing is there to be written twice** only in a tag without attributes, with nothing behind
it. -/
theorem eq_of_doubled {attributes blanks rest : Text} (solid : Text.EndsSolid attributes)
    (blank : ∀ c ∈ blanks, Char.isBlank c = true)
    (same : attributes ++ '/' :: '>' :: rest = blanks ++ ['/', '>']) :
    attributes = [] ∧ blanks = [] ∧ rest = [] := by
  have empty : attributes = [] := by
    refine eq_nil_of_blank solid ?_
    rcases List.append_eq_append_iff.mp same with ⟨gap, rfl, -⟩ | ⟨gap, rfl, slash⟩
    · exact fun c member => blank c (List.mem_append_left _ member)
    · have sizes := congrArg List.length slash
      simp only [List.length_cons, List.length_nil, List.length_append] at sizes
      have none : gap = [] := List.length_eq_zero_iff.mp (by omega)
      rwa [none, List.append_nil]
  subst empty
  cases blanks with
  | nil => exact ⟨rfl, rfl, by simpa using same⟩
  | cons c blanks =>
    have solid := blank c List.mem_cons_self
    rw [← (List.cons.inj same).1] at solid
    exact absurd solid (by decide)

end SvgTag

/-! ### What becomes of an embedded icon -/

/-- What becomes of a text with an icon in it, of the given shares. The icon's root has `inside` in
its tag and `rest` behind it. The icon stands as given in the text, and the first tag of the text
decides what becomes of it. No tag is in front of the icon, unless shares of the text make one
together. With an open root the text is then left alone; with one that closes at once, everything but
the brackets is written twice. So the text is left alone exactly if the root is open, or there is
nothing but it. -/
structure Embedded (shares : List Share) (svg inside rest text : Text)
    (written : Except ComponentError Text) : Prop where
  split : text = Share.textAhead svg shares ++ (svg ++ Share.textBehind svg shares)
  decided : ∃ before tag after, SvgTag.find? text = some (before, tag, after) ∧
    written = .ok (if (SvgTag.inside tag).closed then
      before ++ mergeIntoIcon svg (SvgTag.inside tag).attributes ++ after else text)
  apart : (∀ share ∈ Share.ahead shares, ¬ Text.EndsWithin SvgTag.opening (share.written svg)) →
    ¬ SvgTag.OpensIn (Share.textAhead svg shares)
  isOpen : ¬ SvgTag.OpensIn (Share.textAhead svg shares) →
    (SvgTag.inside inside).closed = false → written = .ok text
  isClosed : ¬ SvgTag.OpensIn (Share.textAhead svg shares) →
    (SvgTag.inside inside).closed = true → written =
      .ok (Share.textAhead svg shares ++
        (SvgTag.written ((SvgTag.inside inside).attributes ++ (SvgTag.inside inside).attributes ++
          ['/']) ++ rest ++ rest) ++ Share.textBehind svg shares)
  kept : ¬ SvgTag.OpensIn (Share.textAhead svg shares) →
    (written = .ok text ↔ (SvgTag.inside inside).closed = false ∨ svg = "<svg/>".toList)

section Engines

variable {engines : Engines} {template : engines.Template}

/-- The first tag of a text decides what becomes of it. -/
theorem write_of_find? {before tag after : Text}
    (rendered : engines.render template payload = .ok text)
    (found : SvgTag.find? text = some (before, tag, after)) :
    engines.write template payload = .ok (if (SvgTag.inside tag).closed then
      before ++ mergeIntoIcon payload.svg (SvgTag.inside tag).attributes ++ after else text) := by
  refine Engines.write_eq_ok_iff.mpr ⟨text, rendered, ?_⟩
  rw [spliceRoot?, found, Option.map_some]

section FirstTag

variable {inside rest ahead behind : Text}

/-- With an icon in it a text has a tag. -/
theorem find?_around (svg : payload.svg = SvgTag.written inside ++ rest)
    (wordEnds : Text.wordEnds (inside ++ '>' :: rest) = true) :
    ∃ before tag after, SvgTag.find? (ahead ++ (payload.svg ++ behind)) =
      some (before, tag, after) := by
  have ends := SvgTag.wordEnds_bracket '>' rest (rest ++ behind) wordEnds
  have bracket : '>' ∈ inside ++ '>' :: (rest ++ behind) := by simp
  obtain ⟨before, tag, after, found, -⟩ := SvgTag.find?_of_opened ahead ends bracket
  refine ⟨before, tag, after, ?_⟩
  rw [← found, svg]
  simp [SvgTag.written]

/-- The first tag is the icon's own if no tag is in front of it. -/
theorem find?_behind_text (svg : payload.svg = SvgTag.written inside ++ rest)
    (noEnd : '>' ∉ inside) (wordEnds : Text.wordEnds (inside ++ '>' :: rest) = true)
    (closed : ¬ SvgTag.OpensIn ahead) :
    SvgTag.find? (ahead ++ (payload.svg ++ behind)) = some (ahead, inside, rest ++ behind) := by
  rw [svg, List.append_assoc]
  exact SvgTag.find?_behind closed noEnd
    (SvgTag.wordEnds_bracket '>' rest (rest ++ behind) wordEnds)

/-- **An icon that is merged into itself** is written twice, but for the brackets. -/
theorem write_of_closed (rendered : engines.render template payload = .ok text)
    (svg : payload.svg = SvgTag.written inside ++ rest) (noEnd : '>' ∉ inside)
    (wordEnds : Text.wordEnds (inside ++ '>' :: rest) = true)
    (found : SvgTag.find? text = some (ahead, inside, rest ++ behind))
    (closed : (SvgTag.inside inside).closed = true) :
    engines.write template payload = .ok (ahead ++ (SvgTag.written ((SvgTag.inside inside).attributes ++
      (SvgTag.inside inside).attributes ++ ['/']) ++ rest ++ rest) ++ behind) := by
  rw [write_of_find? rendered found, if_pos closed, svg,
    Splicing.mergeIntoIcon_written noEnd wordEnds, closed]
  simp [Splicing.IconMarkup.slash]

/-- The text is what it was only if nothing is there to be written twice. -/
theorem svg_of_doubled (closed : (SvgTag.inside inside).closed = true)
    (same : ahead ++ (SvgTag.written ((SvgTag.inside inside).attributes ++
        (SvgTag.inside inside).attributes ++ ['/']) ++ rest ++ rest) ++ behind =
      ahead ++ (SvgTag.written inside ++ rest ++ behind)) :
    SvgTag.written inside ++ rest = "<svg/>".toList := by
  obtain ⟨blanks, shape, blank, solid⟩ := SvgTag.exists_inside_closed closed
  generalize (SvgTag.inside inside).attributes = attributes at same shape solid
  subst shape
  have doubled : attributes ++ '/' :: '>' :: rest = blanks ++ ['/', '>'] := by
    have tails : (SvgTag.opening ++ attributes) ++ (attributes ++ '/' :: '>' :: rest) ++
        (rest ++ behind) =
        (SvgTag.opening ++ attributes) ++ (blanks ++ ['/', '>']) ++ (rest ++ behind) := by
      simpa [SvgTag.written] using same
    exact List.append_cancel_left (List.append_cancel_right tails)
  obtain ⟨rfl, rfl, rfl⟩ := SvgTag.eq_of_doubled solid blank doubled
  rfl

/-- An icon that is nothing but its tag, without attributes, is nothing to be written twice. -/
theorem doubled_of_svg (svg : payload.svg = SvgTag.written inside ++ rest)
    (noEnd : '>' ∉ inside) (wordEnds : Text.wordEnds (inside ++ '>' :: rest) = true)
    (plain : payload.svg = "<svg/>".toList) :
    ahead ++ (SvgTag.written ((SvgTag.inside inside).attributes ++
        (SvgTag.inside inside).attributes ++ ['/']) ++ rest ++ rest) ++ behind =
      ahead ++ (payload.svg ++ behind) := by
  have tag : SvgTag.find? payload.svg = some ([], inside, rest) := by
    rw [svg, SvgTag.find?_written noEnd wordEnds]
  have bare : (SvgTag.inside ['/']).attributes = [] := by decide
  rw [plain, show SvgTag.find? "<svg/>".toList = some ([], ['/'], []) by decide +kernel] at tag
  cases tag
  rw [plain, bare]
  simp [SvgTag.written, SvgTag.opening]

end FirstTag

/-- Shares without a tag of their own, none of which ends in a part of one, open none. -/
theorem not_opensIn_textAhead (assembly : engines.Assembly)
    (own : ∀ words ∈ assembly.ownWords template, ¬ SvgTag.opening <:+: words)
    (others : ∀ name value, payload.field? name = some value → name ≠ iconField →
      ¬ SvgTag.opening <:+: value.written)
    (apart : ∀ share ∈ Share.ahead (assembly.shares template payload),
      ¬ Text.EndsWithin SvgTag.opening (share.written payload.svg)) :
    ¬ SvgTag.OpensIn (Share.textAhead payload.svg (assembly.shares template payload)) := by
  refine SvgTag.not_opensIn (Text.not_infix_flatMap (by decide) (fun share member inside => ?_) apart)
  have other := List.mem_takeWhile_imp member
  have member := (List.takeWhile_prefix _).subset member
  cases share with
  | icon => cases other
  | other text =>
    rcases assembly.source member with
      ⟨words, among, within⟩ | ⟨name, value, found, named, within⟩ | free
    · exact own words among (inside.trans within)
    · exact others name value found named (inside.trans within)
    · exact free (inside.subset (by decide))

/-- **What becomes of an embedded icon**, for every template without an svg tag of its own and every
payload whose other fields hold none, whoever renders it. -/
theorem write_embedded (engines : Engines) (assembly : engines.Assembly)
    (template : engines.Template) {inside rest : Text}
    (own : ∀ words ∈ assembly.ownWords template, ¬ SvgTag.opening <:+: words)
    (others : ∀ name value, payload.field? name = some value → name ≠ iconField →
      ¬ SvgTag.opening <:+: value.written)
    (root : SvgTag.find? payload.svg = some ([], inside, rest))
    (embeds : .icon ∈ assembly.shares template payload)
    (rendered : engines.render template payload = .ok text) :
    Embedded (assembly.shares template payload) payload.svg inside rest text
      (engines.write template payload) := by
  obtain ⟨svg, noEnd, wordEnds⟩ := SvgTag.eq_written_of_find? root
  have split := (assembly.whole rendered).trans (Share.flatMap_written embeds payload.svg)
  have apart := not_opensIn_textAhead assembly own others
  generalize assembly.shares template payload = shares at split apart
  have first : ¬ SvgTag.OpensIn (Share.textAhead payload.svg shares) → SvgTag.find? text =
      some (Share.textAhead payload.svg shares, inside,
        rest ++ Share.textBehind payload.svg shares) := by
    intro ahead
    rw [split]
    exact find?_behind_text svg noEnd wordEnds ahead
  have isOpen : ¬ SvgTag.OpensIn (Share.textAhead payload.svg shares) →
      (SvgTag.inside inside).closed = false → engines.write template payload = .ok text := by
    intro ahead open'
    rw [write_of_find? rendered (first ahead), open']
    rfl
  have isClosed := fun ahead => write_of_closed rendered svg noEnd wordEnds (first ahead)
  refine ⟨split, ?_, apart, isOpen, isClosed, fun ahead => ?_⟩
  · obtain ⟨before, tag, after, found⟩ := find?_around svg wordEnds
    rw [← split] at found
    exact ⟨before, tag, after, found, write_of_find? rendered found⟩
  · cases closed : (SvgTag.inside inside).closed with
    | false => exact iff_of_true (isOpen ahead closed) (Or.inl rfl)
    | true =>
      rw [isClosed ahead closed, Except.ok.injEq, split]
      constructor
      · intro same
        rw [svg] at same ⊢
        exact Or.inr (svg_of_doubled closed same)
      · rintro (open' | plain)
        · cases open'
        · exact doubled_of_svg svg noEnd wordEnds plain

end Engines

/-- The icon of a payload between two tags. -/
def framed : Template :=
  .text "<div>".toList (.field ⟨1, 6⟩ ⟨iconField, false, [iconField]⟩
    (.text "</div>".toList .done))

/-- The icon alone. -/
def unframed : Template := .field ⟨1, 1⟩ ⟨iconField, false, [iconField]⟩ .done

/-- An icon whose root is open is left alone. -/
theorem framed_left_alone :
    Template.parse? "<div>\x7b\x7bsvg\x7d\x7d</div>".toList = some framed ∧
      (∀ words ∈ framed.ownWords, ¬ SvgTag.opening <:+: words) ∧
      framed.write clockPayload =
        .ok "<div><svg viewBox=\"0 0 24 24\"><path fill=\x7bfill\x7d/></svg></div>".toList := by
  have own : ∀ words ∈ framed.ownWords, ¬ SvgTag.opening <:+: words := by decide +kernel
  have others : ∀ name value, clockPayload.field? name = some value → name ≠ iconField →
      ¬ SvgTag.opening <:+: value.written := by
    intro name value found other
    have among : ∀ field ∈ clockPayload.fields, field.1 ≠ iconField →
        ¬ SvgTag.opening <:+: field.2.written := by decide +kernel
    obtain ⟨ahead, behind, whole, -⟩ := List.lookup_eq_some_iff.mp found
    exact among (name, value) (by rw [whole]; simp) other
  have root : SvgTag.find? clockPayload.svg = some ([], " viewBox=\"0 0 24 24\"".toList,
      "<path fill=\x7bfill\x7d/></svg>".toList) := by decide +kernel
  have rendered : framed.render clockPayload =
      .ok "<div><svg viewBox=\"0 0 24 24\"><path fill=\x7bfill\x7d/></svg></div>".toList := by
    decide +kernel
  have embedded := write_embedded .standard Template.assembly framed own others root (by decide +kernel)
    (congrArg (Except.mapError RenderError.message) rendered)
  exact ⟨by decide +kernel, own,
    embedded.isOpen (SvgTag.not_opensIn (by decide +kernel)) (by decide)⟩

/-- An icon whose root closes at once has its attribute twice. -/
theorem unframed_written_twice :
    let icon := "<svg viewBox=\"0 0 24 24\"/>".toList
    let payload := { clockPayload with svg := icon }
    Template.parse? "\x7b\x7bsvg\x7d\x7d".toList = some unframed ∧
      unframed.render payload = .ok icon ∧
      unframed.write payload = .ok "<svg viewBox=\"0 0 24 24\" viewBox=\"0 0 24 24\"/>".toList ∧
      unframed.write payload ≠ .ok icon := by
  decide +kernel

end IconComponents
