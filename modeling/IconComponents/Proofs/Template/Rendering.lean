/-
**What a template writes, and from which fields.**

A template that writes texts and fields and decides by fields alone cannot fail, and what it writes
depends on these fields only.

* `Template.isPlain`, `render_plain` — such a template, and two payloads that it cannot tell apart;
* `Template.cutAt?`, `render_of_cutAt?` — the template in front of a text that it always writes, and
  the one behind it;
* `Template.keepsOut`, `not_infix_render` — a text that cannot come about between the elements of a
  template, so that it is written only where a field holds it.
-/

import IconComponents.Proofs.Text.Scan
import IconComponents.Template.Render

namespace IconComponents

variable {names : List Text} {payload other : Payload} {needle : Text}

/-! ### One element -/

theorem bind_ok_iff {α β : Type} {first : Except RenderError α} {next : α → Except RenderError β}
    {result : β} :
    first >>= next = .ok result ↔ ∃ value, first = .ok value ∧ next value = .ok result := by
  cases first with
  | error error => exact iff_of_false (fun same => nomatch same) fun ⟨_, same, _⟩ => nomatch same
  | ok value => exact ⟨fun same => ⟨value, rfl, same⟩, fun ⟨_, rfl, same⟩ => same⟩

theorem render_text_eq_ok_iff {words text : Text} {rest : Template} :
    (Template.text words rest).render payload = .ok text ↔
      ∃ behind, rest.render payload = .ok behind ∧ words ++ behind = text := by
  rw [Template.render, bind_ok_iff]
  simp only [Except.ok.injEq]

theorem render_field_eq_ok_iff {position : Position} {reference : Reference} {text : Text}
    {rest : Template} :
    (Template.field position reference rest).render payload = .ok text ↔
      ∃ value behind, payload.resolve reference = some value ∧ rest.render payload = .ok behind ∧
        value.written ++ behind = text := by
  rw [Template.render]
  cases payload.resolve reference with
  | none => simp
  | some value => simp [bind_ok_iff]

/-- A block is rendered by one of its branches. -/
theorem render_block_eq_ok_iff {position : Position} {helper : Call} {text : Text}
    {body alternative rest : Template} :
    (Template.block position helper body alternative rest).render payload = .ok text ↔
      ∃ taken chosen behind, helper.takesBody payload = .ok taken ∧
        (bif taken then body else alternative).render payload = .ok chosen ∧
          rest.render payload = .ok behind ∧ chosen ++ behind = text := by
  rw [Template.render]
  cases helper.takesBody payload with
  | error cause => simp
  | ok taken => cases taken <;> simp [bind_ok_iff]

/-! ### Plain templates -/

/-- Whether a reference leads to one of the given fields. -/
def Reference.isAmong (names : List Text) (reference : Reference) : Bool :=
  match reference.names with
  | [name] => !reference.isLocal && names.contains name
  | _ => false

/-- Whether a call decides by one of the given fields. -/
def Call.isPlain (names : List Text) (call : Call) : Bool :=
  match call with
  | ⟨helper, .more none (.field reference) .done⟩ =>
    helper == "if".toList && reference.isAmong names
  | _ => false

/-- Whether a template writes texts and the given fields, and decides by these fields. -/
def Template.isPlain (names : List Text) : Template → Bool
  | done => true
  | text _ rest => rest.isPlain names
  | field _ reference rest => reference.isAmong names && rest.isPlain names
  | block _ helper body alternative rest =>
    helper.isPlain names && body.isPlain names && alternative.isPlain names && rest.isPlain names
  | _ => false

/-- Two payloads have the given fields in common. -/
def Payload.Shares (names : List Text) (payload other : Payload) : Prop :=
  ∀ name ∈ names, ∃ value, payload.field? name = some value ∧ other.field? name = some value

theorem exists_name_of_isAmong {reference : Reference} (among : reference.isAmong names = true) :
    ∃ name ∈ names, ∀ payload : Payload, payload.resolve reference = payload.field? name := by
  obtain ⟨written, isLocal, path⟩ := reference
  match path with
  | [] => cases among
  | [name] =>
    rw [Reference.isAmong, Bool.and_eq_true, Bool.not_eq_true', List.contains_iff_mem] at among
    obtain ⟨here, member⟩ := among
    obtain rfl : isLocal = false := here
    exact ⟨name, member, fun payload => rfl⟩
  | _ :: _ :: _ => cases among

/-- Shared fields resolve alike. -/
theorem resolve_shared (shares : payload.Shares names other) {reference : Reference}
    (among : reference.isAmong names = true) :
    ∃ value, payload.resolve reference = some value ∧ other.resolve reference = some value := by
  obtain ⟨name, member, leads⟩ := exists_name_of_isAmong among
  rw [leads, leads]
  exact shares name member

/-- A plain condition holds for what is given: a text that is not empty, or a yes. -/
theorem takesBody_if (reference : Reference) :
    Call.takesBody ⟨"if".toList, .more none (.field reference) .done⟩ payload =
      .ok ((payload.condition reference).holds false) := by
  show Except.ok ((payload.condition reference).holds false == true) = _
  rw [beq_true]

/-- Blocks that ask for shared fields take the same branch. -/
theorem takesBody_shared (shares : payload.Shares names other) {call : Call}
    (plain : call.isPlain names = true) :
    ∃ taken, call.takesBody payload = .ok taken ∧ call.takesBody other = .ok taken := by
  unfold Call.isPlain at plain
  split at plain
  · next helper reference =>
    rw [Bool.and_eq_true, beq_iff_eq] at plain
    obtain ⟨rfl, among⟩ := plain
    obtain ⟨value, here, there⟩ := resolve_shared shares among
    have same : payload.condition reference = other.condition reference := by
      rw [Payload.condition, Payload.condition, here, there]
    exact ⟨_, takesBody_if reference, same ▸ takesBody_if reference⟩
  · cases plain

/-- **A plain template does not fail, and it looks at its own fields only.** -/
theorem render_plain (shares : payload.Shares names other) {template : Template}
    (plain : template.isPlain names = true) :
    ∃ text, template.render payload = .ok text ∧ template.render other = .ok text := by
  induction template with
  | done => exact ⟨[], rfl, rfl⟩
  | text words rest ih =>
    obtain ⟨behind, here, there⟩ := ih plain
    exact ⟨words ++ behind, render_text_eq_ok_iff.mpr ⟨behind, here, rfl⟩,
      render_text_eq_ok_iff.mpr ⟨behind, there, rfl⟩⟩
  | field position reference rest ih =>
    rw [Template.isPlain, Bool.and_eq_true] at plain
    obtain ⟨value, foundHere, foundThere⟩ := resolve_shared shares plain.1
    obtain ⟨behind, here, there⟩ := ih plain.2
    exact ⟨value.written ++ behind,
      render_field_eq_ok_iff.mpr ⟨value, behind, foundHere, here, rfl⟩,
      render_field_eq_ok_iff.mpr ⟨value, behind, foundThere, there, rfl⟩⟩
  | call position helper rest ih => cases plain
  | inclusion position name parameters rest ih => cases plain
  | block position helper body alternative rest ihBody ihAlternative ihRest =>
    simp only [Template.isPlain, Bool.and_eq_true] at plain
    obtain ⟨⟨⟨plainHelper, plainBody⟩, plainAlternative⟩, plainRest⟩ := plain
    obtain ⟨taken, takenHere, takenThere⟩ := takesBody_shared shares plainHelper
    obtain ⟨chosen, chosenHere, chosenThere⟩ : ∃ chosen,
        (bif taken then body else alternative).render payload = .ok chosen ∧
          (bif taken then body else alternative).render other = .ok chosen := by
      cases taken with
      | true => exact ihBody plainBody
      | false => exact ihAlternative plainAlternative
    obtain ⟨behind, here, there⟩ := ihRest plainRest
    exact ⟨chosen ++ behind,
      render_block_eq_ok_iff.mpr ⟨taken, chosen, behind, takenHere, chosenHere, here, rfl⟩,
      render_block_eq_ok_iff.mpr ⟨taken, chosen, behind, takenThere, chosenThere, there, rfl⟩⟩

/-! ### A text that is always written -/

/-- The template up to the first text outside of blocks that holds `needle`, the words behind it in
that text, and the template from there on. -/
def Template.cutAt? (needle : Text) : Template → Option (Template × Text × Template)
  | text words rest =>
    match Text.cut? needle words with
    | some (before, after) => some (.text before .done, after, rest)
    | none => (rest.cutAt? needle).map fun (front, found) => (.text words front, found)
  | field position reference rest =>
    (rest.cutAt? needle).map fun (front, found) => (.field position reference front, found)
  | block position helper body alternative rest =>
    (rest.cutAt? needle).map fun (front, found) =>
      (.block position helper body alternative front, found)
  | _ => none

/-- **What is written in front of such a text, and behind it.** -/
theorem render_of_cutAt? {template front behind : Template} {words text : Text}
    (cut : template.cutAt? needle = some (front, words, behind))
    (rendered : template.render payload = .ok text) :
    ∃ before after, front.render payload = .ok before ∧ behind.render payload = .ok after ∧
      text = before ++ needle ++ (words ++ after) := by
  induction template generalizing front text with
  | done => cases cut
  | text start rest ih =>
    obtain ⟨later, restRendered, rfl⟩ := render_text_eq_ok_iff.mp rendered
    rw [Template.cutAt?] at cut
    split at cut
    · next before after split =>
      cases cut
      refine ⟨before, later, ?_, restRendered, ?_⟩
      · exact render_text_eq_ok_iff.mpr ⟨[], rfl, List.append_nil before⟩
      · rw [Text.eq_append_of_cut? split, List.append_assoc _ words later]
    · obtain ⟨⟨inner, found⟩, restCut, same⟩ := Option.map_eq_some_iff.mp cut
      cases same
      obtain ⟨before, after, frontRendered, behindRendered, rfl⟩ := ih restCut restRendered
      exact ⟨start ++ before, after, render_text_eq_ok_iff.mpr ⟨before, frontRendered, rfl⟩,
        behindRendered, by simp⟩
  | field position reference rest ih =>
    obtain ⟨value, later, found, restRendered, rfl⟩ := render_field_eq_ok_iff.mp rendered
    obtain ⟨⟨inner, _⟩, restCut, same⟩ := Option.map_eq_some_iff.mp cut
    cases same
    obtain ⟨before, after, frontRendered, behindRendered, rfl⟩ := ih restCut restRendered
    exact ⟨value.written ++ before, after,
      render_field_eq_ok_iff.mpr ⟨value, before, found, frontRendered, rfl⟩, behindRendered,
      by simp⟩
  | call position helper rest ih => cases cut
  | inclusion position name parameters rest ih => cases cut
  | block position helper body alternative rest ihBody ihAlternative ihRest =>
    obtain ⟨taken, chosen, later, decided, branch, restRendered, rfl⟩ :=
      render_block_eq_ok_iff.mp rendered
    obtain ⟨⟨inner, _⟩, restCut, same⟩ := Option.map_eq_some_iff.mp cut
    cases same
    obtain ⟨before, after, frontRendered, behindRendered, rfl⟩ := ihRest restCut restRendered
    exact ⟨chosen ++ before, after,
      render_block_eq_ok_iff.mpr ⟨taken, chosen, before, decided, branch, frontRendered, rfl⟩,
      behindRendered, by simp⟩

/-! ### A text that does not come about -/

namespace Text

/-- A text does not start with a character of `needle`. -/
def StartsApart (needle text : Text) : Prop := ∀ c ∈ text.head?, c ∉ needle

/-- A text does not end in a character of `needle`. -/
def EndsApart (needle text : Text) : Prop := ∀ c ∈ text.getLast?, c ∉ needle

instance (needle text : Text) : Decidable (StartsApart needle text) :=
  decidable_of_iff ((text.head?.all fun c => !needle.elem c) = true) <| by
    rw [StartsApart]
    cases text.head? <;> simp

instance (needle text : Text) : Decidable (EndsApart needle text) :=
  decidable_of_iff ((text.getLast?.all fun c => !needle.elem c) = true) <| by
    rw [EndsApart]
    cases text.getLast? <;> simp

/-- Whether a text neither holds `needle` nor can take part in it with what is around. -/
def isBordered (needle text : Text) : Bool :=
  !Text.contains text needle && decide (StartsApart needle text) && decide (EndsApart needle text)

theorem of_isBordered {text : Text} (bordered : isBordered needle text = true) :
    ¬ needle <:+: text ∧ StartsApart needle text ∧ EndsApart needle text := by
  simp only [isBordered, Bool.and_eq_true, Bool.not_eq_true', decide_eq_true_eq] at bordered
  exact ⟨not_infix_of_contains bordered.1.1, bordered.1.2, bordered.2⟩

/-- **A text does not come about at a border** if a side of it is apart. -/
theorem not_infix_append {left right : Text} (notLeft : ¬ needle <:+: left)
    (notRight : ¬ needle <:+: right) (apart : EndsApart needle left ∨ StartsApart needle right) :
    ¬ needle <:+: left ++ right := by
  rw [List.infix_append_iff_ne_nil]
  rintro (inLeft | inRight | ⟨first, second, firstSome, secondSome, rfl, ends, starts⟩)
  · exact notLeft inLeft
  · exact notRight inRight
  · obtain ⟨ahead, rfl⟩ := ends
    obtain ⟨behind, rfl⟩ := starts
    rcases apart with apart | apart
    · obtain ⟨start, last, rfl⟩ := (List.eq_nil_or_concat' first).resolve_left firstSome
      exact apart last (by simp) (by simp)
    · obtain ⟨next, finish, rfl⟩ := List.exists_cons_of_ne_nil secondSome
      exact apart next (by simp) (by simp)

end Text

namespace Template

/-- Whether what a template writes starts apart from `needle`, given whether what follows does. -/
def startsApart (needle : Text) (next : Bool) : Template → Bool
  | done => next
  | text words rest => !words.isEmpty || rest.startsApart needle next
  | block _ _ body alternative rest =>
    body.startsApart needle (rest.startsApart needle next) &&
      alternative.startsApart needle (rest.startsApart needle next)
  | _ => false

/-- Whether `needle` cannot come about between the elements of a template, given whether what
follows starts apart from it. -/
def keepsOut (needle : Text) (next : Bool) : Template → Bool
  | done => true
  | text words rest => Text.isBordered needle words && rest.keepsOut needle next
  | field _ _ rest => rest.startsApart needle next && rest.keepsOut needle next
  | block _ _ body alternative rest =>
    body.keepsOut needle (rest.startsApart needle next) &&
      alternative.keepsOut needle (rest.startsApart needle next) && rest.keepsOut needle next
  | _ => false

end Template

/-- **A text comes about in a rendered template only where a field holds it.** -/
theorem not_infix_render {template : Template} {next : Bool} (plain : template.isPlain names = true)
    (kept : template.keepsOut needle next = true)
    (fields : ∀ name ∈ names, ∀ value ∈ payload.field? name, ¬ needle <:+: value.written)
    {text behind : Text} (rendered : template.render payload = .ok text)
    (free : ¬ needle <:+: behind) (starts : next = true → Text.StartsApart needle behind) :
    ¬ needle <:+: text ++ behind ∧
      (template.startsApart needle next = true → Text.StartsApart needle (text ++ behind)) := by
  induction template generalizing next text behind with
  | done =>
    cases rendered
    exact ⟨free, starts⟩
  | text words rest ih =>
    rw [Template.keepsOut, Bool.and_eq_true] at kept
    obtain ⟨bordered, restKept⟩ := kept
    obtain ⟨wordsFree, wordsStart, wordsEnd⟩ := Text.of_isBordered bordered
    obtain ⟨later, restRendered, rfl⟩ := render_text_eq_ok_iff.mp rendered
    obtain ⟨restFree, restStarts⟩ := ih plain restKept restRendered free starts
    rw [List.append_assoc]
    refine ⟨Text.not_infix_append wordsFree restFree (Or.inl wordsEnd), fun apart => ?_⟩
    cases words with
    | nil => exact restStarts apart
    | cons c words => exact wordsStart
  | field position reference rest ih =>
    rw [Template.isPlain, Bool.and_eq_true] at plain
    rw [Template.keepsOut, Bool.and_eq_true] at kept
    obtain ⟨value, later, found, restRendered, rfl⟩ := render_field_eq_ok_iff.mp rendered
    obtain ⟨restFree, restStarts⟩ := ih plain.2 kept.2 restRendered free starts
    obtain ⟨name, member, leads⟩ := exists_name_of_isAmong plain.1
    have valueFree := fields name member value (leads payload ▸ found)
    rw [List.append_assoc]
    exact ⟨Text.not_infix_append valueFree restFree (Or.inr (restStarts kept.1)),
      fun apart => by cases apart⟩
  | call position helper rest ih => cases plain
  | inclusion position name parameters rest ih => cases plain
  | block position helper body alternative rest ihBody ihAlternative ihRest =>
    simp only [Template.isPlain, Bool.and_eq_true] at plain
    simp only [Template.keepsOut, Bool.and_eq_true] at kept
    obtain ⟨⟨⟨-, plainBody⟩, plainAlternative⟩, plainRest⟩ := plain
    obtain ⟨⟨bodyKept, alternativeKept⟩, restKept⟩ := kept
    obtain ⟨taken, chosen, later, -, branch, restRendered, rfl⟩ :=
      render_block_eq_ok_iff.mp rendered
    obtain ⟨restFree, restStarts⟩ := ihRest plainRest restKept restRendered free starts
    rw [List.append_assoc, Template.startsApart, Bool.and_eq_true]
    cases taken with
    | true =>
      obtain ⟨bodyFree, bodyStarts⟩ := ihBody plainBody bodyKept branch restFree restStarts
      exact ⟨bodyFree, fun apart => bodyStarts apart.1⟩
    | false =>
      obtain ⟨otherFree, otherStarts⟩ :=
        ihAlternative plainAlternative alternativeKept branch restFree restStarts
      exact ⟨otherFree, fun apart => otherStarts apart.2⟩

end IconComponents
