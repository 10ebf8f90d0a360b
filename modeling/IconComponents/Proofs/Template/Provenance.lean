/-
**How far the source path of an icon reaches.**

The built-in template names the icon's file in a comment, in front of everything else. The path is
written as it is, and the component's root tag is searched for from the comment on.

* `Template.isCommented`, `Commented` — a template with such a comment and a root tag of its own;
* `spliceRoot_sourceComment` — if the path opens no svg tag, it reaches the comment only;
* `spliceRoot_of_opened` — a text that opens a tag keeps the icon from what is behind it;
* `cut?_sourceComment` — the comment ends where it should if the path does not end it;
* `builtin_provenance` — these facts for the built-in template, and where the icon goes.
-/

import IconComponents.Component.Source
import IconComponents.Proofs.Template.Rendering
import IconComponents.Proofs.Template.Splice

namespace IconComponents

open Splicing

/-! ### The comment -/

/-- What stands in front of the path. -/
def commentStart : Text := "/* svg_file: ".toList

/-- What stands behind the path. -/
def commentEnd : Text := " */".toList

/-- The comment that names an icon's source. -/
def sourceComment (path : Text) : Text := commentStart ++ path ++ commentEnd

/-- The payload of the same icon from another place. -/
def Payload.at (payload : Payload) (path : Text) : Payload := { payload with path }

/-- The field of the source path. -/
def pathReference : Reference := ⟨"path".toList, false, ["path".toList]⟩

/-- The template behind the comment that names the source. -/
def Template.behindComment? : Template → Option Template
  | .text start (.field _ reference (.text words rest)) =>
    if start = commentStart ∧ reference = pathReference then
      (Text.after? commentEnd words).map fun words => .text words rest
    else none
  | _ => none

/-- A template with a comment in front renders the comment first. -/
theorem render_behindComment {template rest : Template} {payload : Payload} {text : Text}
    (behind : template.behindComment? = some rest) (rendered : rest.render payload = .ok text) :
    template.render payload = .ok (sourceComment payload.path ++ text) := by
  unfold Template.behindComment? at behind
  split at behind
  · next start position reference words others =>
    split at behind
    · next shape =>
      obtain ⟨rfl, rfl⟩ := shape
      obtain ⟨further, after, rfl⟩ := Option.map_eq_some_iff.mp behind
      obtain ⟨later, restRendered, rfl⟩ := render_text_eq_ok_iff.mp rendered
      have resolved : payload.resolve pathReference = some (.text payload.path) := rfl
      refine render_text_eq_ok_iff.mpr ⟨_, render_field_eq_ok_iff.mpr ⟨_, _, resolved,
        render_text_eq_ok_iff.mpr ⟨later, restRendered, rfl⟩, rfl⟩, ?_⟩
      rw [Text.after?_eq_some_iff.mp after]
      simp [sourceComment, FieldValue.written]
    · cases behind
  · cases behind

/-- A needle that occurs in no way earlier is found where it is written. -/
theorem cut?_first {needle before : Text} (nonempty : needle ≠ [])
    (first : ¬ needle <:+: before ++ needle.dropLast) (after : Text) :
    Text.cut? needle (before ++ (needle ++ after)) = some (before, after) := by
  induction before with
  | nil =>
    obtain ⟨n, others, rfl⟩ := List.exists_cons_of_ne_nil nonempty
    have start : Text.after? (n :: others) (n :: (others ++ after)) = some after :=
      Text.after?_eq_some_iff.mpr rfl
    rw [List.nil_append, List.cons_append, Text.cut?, start]
  | cons c before ih =>
    have later := ih fun within => first (within.trans (List.suffix_cons c _).isInfix)
    have absent : Text.after? needle (c :: (before ++ (needle ++ after))) = none := by
      rw [Option.eq_none_iff_forall_ne_some]
      intro rest start
      have split := Text.after?_eq_some_iff.mp start
      have room : needle <+: c :: (before ++ needle.dropLast) := by
        refine List.prefix_of_prefix_length_le (List.prefix_append needle rest) ?_ ?_
        · rw [← split]
          refine ⟨needle.getLast nonempty :: after, ?_⟩
          conv_rhs => rw [← List.dropLast_append_getLast nonempty]
          simp
        · simp only [List.length_cons, List.length_append, List.length_dropLast]
          omega
      exact first room.isInfix
    rw [List.cons_append, Text.cut?, absent, later]
    rfl

/-- The first place of a needle is not behind another one. -/
theorem prefix_of_cut? {needle before after ahead behind : Text}
    (found : Text.cut? needle (ahead ++ (needle ++ behind)) = some (before, after)) :
    before <+: ahead := by
  induction ahead generalizing before with
  | nil =>
    have start : Text.after? needle (needle ++ behind) = some behind :=
      Text.after?_eq_some_iff.mpr rfl
    rw [List.nil_append] at found
    cases text : needle ++ behind with
    | nil =>
      rw [text, Text.cut?] at found
      split at found
      · cases found
        exact List.nil_prefix
      · cases found
    | cons c rest =>
      rw [text] at start found
      rw [Text.cut?, start] at found
      cases found
      exact List.nil_prefix
  | cons c ahead ih =>
    rw [List.cons_append, Text.cut?] at found
    split at found
    · cases found
      exact List.nil_prefix
    · obtain ⟨⟨inner, rest⟩, later, same⟩ := Option.map_eq_some_iff.mp found
      cases same
      exact List.cons_prefix_cons.mpr ⟨rfl, ih later⟩

/-- **The comment ends at the first `*/`** exactly if the path does not hold one. -/
theorem cut?_sourceComment (path behind : Text) :
    Text.cut? "*/".toList (sourceComment path ++ behind) =
        some (commentStart ++ path ++ [' '], behind) ↔ ¬ "*/".toList <:+: path := by
  constructor
  · rintro found ⟨ahead, rest, rfl⟩
    have shape : sourceComment (ahead ++ "*/".toList ++ rest) ++ behind =
        (commentStart ++ ahead) ++ ("*/".toList ++ (rest ++ commentEnd ++ behind)) := by
      simp [sourceComment]
    rw [shape] at found
    have short := (prefix_of_cut? found).length_le
    simp only [List.length_append, List.length_cons] at short
    omega
  · intro free
    have shape : sourceComment path ++ behind =
        (commentStart ++ path ++ [' ']) ++ ("*/".toList ++ behind) := by
      simp [sourceComment, commentEnd]
    rw [shape]
    refine cut?_first (by decide +kernel) ?_ behind
    have front : ¬ "*/".toList <:+: commentStart ++ path :=
      Text.not_infix_append (by decide +kernel) free (Or.inl (by decide +kernel))
    rw [List.append_assoc]
    exact Text.not_infix_append front (by decide +kernel) (Or.inr (by decide +kernel))

/-! ### Templates with a comment and a root tag -/

/-- Whether a template names the source in a comment and goes on with given fields only, up to a
root tag of its own, in front of which a tag ends and none starts. -/
def Template.isCommented (names : List Text) (root : Text) (template : Template) : Bool :=
  template.behindComment?.any fun rest =>
    rest.isPlain names && (rest.cutAt? root).any fun (front, _, _) =>
      front.isPlain names && front.keepsOut SvgTag.opening true && (front.cutAt? ['>']).isSome

/-- The parts of such a template: what is in front of the root tag, and what is behind it. -/
structure Commented (names : List Text) (root : Text) (template rest front : Template)
    (words : Text) (behind : Template) : Prop where
  starts : template.behindComment? = some rest
  plain : rest.isPlain names = true
  cut : rest.cutAt? root = some (front, words, behind)
  frontPlain : front.isPlain names = true
  kept : front.keepsOut SvgTag.opening true = true
  bracket : (front.cutAt? ['>']).isSome = true

/-- A template with a comment comes apart into the comment and the rest. -/
theorem exists_commented {names : List Text} {root : Text} {template : Template}
    (commented : template.isCommented names root = true) :
    ∃ rest front words behind, Commented names root template rest front words behind := by
  obtain ⟨rest, starts, checked⟩ := (Option.any_eq_true _ _).mp commented
  rw [Bool.and_eq_true] at checked
  obtain ⟨plain, checked⟩ := checked
  obtain ⟨⟨front, words, behind⟩, cut, checked⟩ := (Option.any_eq_true _ _).mp checked
  simp only [Bool.and_eq_true] at checked
  obtain ⟨⟨frontPlain, kept⟩, bracket⟩ := checked
  exact ⟨rest, front, words, behind, starts, plain, cut, frontPlain, kept, bracket⟩

section

variable {names : List Text} {root words : Text} {template rest front behind : Template}

/-- What is written for a payload around the root tag. -/
theorem Commented.exists_render (parts : Commented names root template rest front words behind)
    {payload : Payload} (shares : payload.Shares names payload) :
    ∃ head after, front.render payload = .ok head ∧ behind.render payload = .ok after ∧
      rest.render payload = .ok (head ++ (root ++ (words ++ after))) := by
  obtain ⟨text, rendered, -⟩ := render_plain shares parts.plain
  obtain ⟨head, after, frontRendered, behindRendered, rfl⟩ := render_of_cutAt? parts.cut rendered
  rw [List.append_assoc] at rendered
  exact ⟨head, after, frontRendered, behindRendered, rendered⟩

/-- Where no field holds the start of a root tag, none is in front of the template's own. -/
theorem Commented.free (parts : Commented names root template rest front words behind)
    {payload : Payload} {head : Text} (rendered : front.render payload = .ok head)
    (fields : ∀ name ∈ names, ∀ value ∈ payload.field? name, ¬ SvgTag.opening <:+: value.written) :
    ¬ SvgTag.opening <:+: head := by
  have nothing : ¬ SvgTag.opening <:+: [] := by decide +kernel
  have free := (not_infix_render parts.frontPlain parts.kept fields rendered nothing
    fun _ c member => by cases member).1
  rwa [List.append_nil] at free

end

/-- What is written behind the comment: the text in front of the root tag, the tag, and the rest. -/
structure Sections (names : List Text) (root : Text) (template : Template) (payload : Payload)
    (head tail : Text) : Prop where
  rendered : ∀ path, payload.Shares names (payload.at path) →
    template.render (payload.at path) = .ok (sourceComment path ++ (head ++ (root ++ tail)))
  ended : '>' ∈ head
  free : (∀ name ∈ names, ∀ value ∈ payload.field? name, ¬ SvgTag.opening <:+: value.written) →
    ¬ SvgTag.opening <:+: head

theorem exists_sections {names : List Text} {root : Text} {template : Template}
    (commented : template.isCommented names root = true) {payload : Payload}
    (shares : payload.Shares names payload) :
    ∃ head tail, Sections names root template payload head tail := by
  obtain ⟨rest, front, words, behind, parts⟩ := exists_commented commented
  obtain ⟨head, after, frontRendered, -, rendered⟩ := parts.exists_render shares
  obtain ⟨⟨_, _, _⟩, bracketCut⟩ := Option.isSome_iff_exists.mp parts.bracket
  obtain ⟨ahead, later, -, -, headSplit⟩ := render_of_cutAt? bracketCut frontRendered
  refine ⟨head, words ++ after, fun path shared => ?_, by simp [headSplit],
    parts.free frontRendered⟩
  obtain ⟨same, here, there⟩ := render_plain shared parts.plain
  rw [rendered] at here
  cases here
  exact render_behindComment parts.starts there

/-! ### The path and the root tag -/

/-- A text behind which a tag is found, and in which none starts. -/
theorem find?_sourceComment {path behind ahead inside rest : Text} (closed : ¬ SvgTag.OpensIn path)
    (found : SvgTag.find? behind = some (ahead, inside, rest)) :
    SvgTag.find? (sourceComment path ++ behind) =
      some (sourceComment path ++ ahead, inside, rest) := by
  have shape : ∀ text,
      sourceComment path ++ text = commentStart ++ (path ++ (commentEnd ++ text)) :=
    fun text => by simp [sourceComment]
  have refused : ∀ c text, c ≠ '<' → SvgTag.recognise (c :: text) = none := by
    intro c text other
    rw [Option.eq_none_iff_forall_ne_some]
    intro hit taken
    exact other (List.cons.inj (SvgTag.of_recognise taken).1).1
  rw [shape, shape]
  refine Recogniser.find?_append_of_refuses
    (Recogniser.refuses_of_forall refused (Text.forall_mem_of_all rfl) _) ?_
  have inPath : Recogniser.Refuses SvgTag.recognise path (commentEnd ++ behind) :=
    SvgTag.refuses_of_not_opensIn closed (by decide +kernel) ('*' :: '/' :: behind)
  refine Recogniser.find?_append_of_refuses inPath ?_
  exact Recogniser.find?_append_of_refuses
    (Recogniser.refuses_of_forall refused (Text.forall_mem_of_all rfl) _) found

/-- **A path that opens no tag does not matter** for where the icon goes. -/
theorem spliceRoot_sourceComment {path : Text} (closed : ¬ SvgTag.OpensIn path)
    (behind icon : Text) :
    (SvgTag.find? behind).isSome = true →
    spliceRoot? (sourceComment path ++ behind) icon =
      (spliceRoot? behind icon).map (sourceComment path ++ ·) := by
  intro some
  obtain ⟨⟨ahead, inside, rest⟩, found⟩ := Option.isSome_iff_exists.mp some
  rw [spliceRoot_of_find (find?_sourceComment closed found), spliceRoot_of_find found]
  split <;> simp

/-- Behind the first of several places of a character there are the texts behind the others. -/
theorem suffix_of_first {c : Char} {left right first rest : Text} (free : c ∉ first)
    (same : left ++ c :: right = first ++ c :: rest) : right <:+ rest := by
  rcases List.append_eq_append_iff.mp same with ⟨gap, firstEq, rightEq⟩ | ⟨gap, -, restEq⟩
  · cases gap with
    | nil => exact (List.cons.inj rightEq).2 ▸ List.suffix_refl _
    | cons d gap =>
      rw [← (List.cons.inj rightEq).1] at firstEq
      exact absurd (firstEq ▸ List.mem_append_right _ List.mem_cons_self) free
  · cases gap with
    | nil => exact (List.cons.inj restEq).2 ▸ List.suffix_refl _
    | cons d gap =>
      rw [(List.cons.inj restEq).2]
      exact (List.suffix_cons c right).trans (List.suffix_append gap _)

/-- **A text that opens a tag keeps the icon from what is behind it**, if a tag ends in between. -/
theorem spliceRoot_of_opened {front rest : Text} (opened : SvgTag.OpensIn front)
    (ends : Text.wordEnds rest = true) (ended : '>' ∈ rest) (behind icon : Text) :
    ∃ kept, spliceRoot? (front ++ (rest ++ behind)) icon = some (kept ++ behind) := by
  obtain ⟨before, after, rfl, afterEnds⟩ := opened
  obtain ⟨first, last, rfl⟩ := List.append_of_mem ended
  have shape : before ++ (SvgTag.opening ++ after) ++ (first ++ '>' :: last ++ behind) =
      before ++ (SvgTag.opening ++ ((after ++ first) ++ '>' :: (last ++ behind))) := by
    simp
  have wordEnds : Text.wordEnds ((after ++ first) ++ '>' :: (last ++ behind)) = true := by
    rw [List.append_assoc]
    exact SvgTag.wordEnds_append afterEnds (SvgTag.wordEnds_bracket '>' last _ ends)
  obtain ⟨ahead, inside, others, found, split, free, gap, aheadEq⟩ :=
    SvgTag.find?_of_opened before wordEnds (by simp)
  obtain ⟨middle, rfl⟩ : ∃ middle, others = middle ++ behind := by
    rw [aheadEq, List.append_assoc] at split
    have same := (List.append_cancel_left split).symm
    rw [← List.append_assoc, ← List.append_assoc, ← List.append_assoc, ← List.append_assoc] at same
    have inside : '>' ∉ SvgTag.opening ++ inside := by
      rw [List.mem_append]
      exact fun member => member.elim (by decide +kernel) free
    obtain ⟨middle, othersEq⟩ := suffix_of_first inside same
    exact ⟨middle ++ last, by rw [← othersEq, List.append_assoc]⟩
  rw [shape, spliceRoot_of_find found]
  split
  · exact ⟨_, by rw [← List.append_assoc]⟩
  · exact ⟨before ++ (SvgTag.opening ++ ((after ++ first) ++ '>' :: last)), by simp⟩

/-- **A path that opens a tag keeps the icon from the root tag**, if a tag ends in front of that. -/
theorem spliceRoot_of_opensIn {path head behind : Text} (opened : SvgTag.OpensIn path)
    (ended : '>' ∈ head) (icon : Text) :
    ∃ front,
      spliceRoot? (sourceComment path ++ (head ++ behind)) icon = some (front ++ behind) := by
  have inFront : SvgTag.OpensIn (commentStart ++ path) :=
    (SvgTag.opensIn_of_free (by decide)).mpr opened
  have shape : sourceComment path ++ (head ++ behind) =
      (commentStart ++ path) ++ ((commentEnd ++ head) ++ behind) := by
    simp [sourceComment]
  rw [shape]
  exact spliceRoot_of_opened inFront rfl (List.mem_append_right _ ended) behind icon

/-! ### The built-in template -/

/-- The source that the built-in template gives for a payload. -/
def writeBuiltin (payload : Payload) : Except ComponentError Text :=
  Template.builtin.bind (·.write payload)

/-- The fields that the built-in template refers to behind its comment. -/
def builtinFields : List Text :=
  ["component_name".toList, "width".toList, "height".toList, "height_default".toList,
    "fill".toList, "stroke".toList, "prop_type".toList]

/-- Payloads that differ in their paths share all other fields. -/
theorem shares_at (payload : Payload) (path : Text) :
    payload.Shares builtinFields (payload.at path) := by
  intro name member
  simp only [builtinFields, List.mem_cons, List.not_mem_nil, or_false] at member
  rcases member with rfl | rfl | rfl | rfl | rfl | rfl | rfl <;> exact ⟨_, rfl, rfl⟩

/-- The name of an item, by a look at its characters. -/
def Splicing.ItemName.ofText (text : Text)
    (checked : (!text.isEmpty && text.all isItemPart) = true) : ItemName where
  text := text
  some := by
    rintro rfl
    cases checked
  parts := List.all_eq_true.mp (Bool.and_eq_true_iff.mp checked).2

/-- The root tag of the built-in template. -/
def componentRoot : RootTag where
  items :=
    [spaced (.computed (.ofText "className".toList rfl)
        "className ? `icon $\x7bclassName\x7d` : 'icon'".toList),
      spaced (.computed (.ofText "style".toList rfl) "sizeStyle".toList),
      spaced (.spread "rest".toList)]
  ending := [' ']
  ends := Document.Gap.space.blank

theorem exists_builtin : ∃ template, Template.builtin = .ok template ∧
    template.isCommented builtinFields componentRoot.print = true := by
  have checked : (Template.parse? builtinSource).any
      (·.isCommented builtinFields componentRoot.print) = true := by
    unfold builtinSource builtinLines
    simp only [List.flatMap_cons, List.flatMap_nil]
    repeat rw [String.toList_ofList]
    decide +kernel
  obtain ⟨template, parsed, commented⟩ := (Option.any_eq_true _ _).mp checked
  exact ⟨template, Template.ofSource_eq_ok.mpr parsed, commented⟩

/-- How far the source path reaches. The template writes `head`, its root tag and `tail` behind the
comment, and `component` is the text that comes of them. A path without an svg tag reaches the
comment only, which ends at the first `*/` if that is not in the path. The icon goes into the root
tag if no other field holds the start of one, and a path with an svg tag leaves the root tag without
it. -/
structure Provenance (payload : Payload) (head tail component : Text) : Prop where
  rendered : ∀ template, Template.builtin = .ok template → ∀ path,
    template.render (payload.at path) =
      .ok (sourceComment path ++ (head ++ (componentRoot.print ++ tail)))
  written : ∀ path, ¬ SvgTag.OpensIn path →
    writeBuiltin (payload.at path) = .ok (sourceComment path ++ component)
  ended : ∀ path, Text.cut? "*/".toList (sourceComment path ++ component) =
    some (commentStart ++ path ++ [' '], component) ↔ ¬ "*/".toList <:+: path
  spliced : (∀ name ∈ builtinFields, ∀ value ∈ payload.field? name,
      ¬ SvgTag.opening <:+: value.written) →
    component = head ++ mergeIntoIcon payload.svg componentRoot.itemText ++ tail
  lost : ∀ path, SvgTag.OpensIn path →
    ∃ front, writeBuiltin (payload.at path) = .ok (front ++ (componentRoot.print ++ tail))

/-- The root tag is a place for the icon, whatever is around it. -/
theorem exists_spliceRoot (head tail icon : Text) :
    (SvgTag.find? (head ++ (componentRoot.print ++ tail))).isSome = true ∧
      ∃ component, spliceRoot? (head ++ (componentRoot.print ++ tail)) icon = some component := by
  have shape : head ++ (componentRoot.print ++ tail) = head ++ (SvgTag.opening ++
      ((componentRoot.itemText ++ componentRoot.ending ++ ['/']) ++ '>' :: tail)) := by
    simp [RootTag.print, SvgTag.written]
  have ends : Text.wordEnds
      ((componentRoot.itemText ++ componentRoot.ending ++ ['/']) ++ '>' :: tail) = true := rfl
  obtain ⟨ahead, inside, rest, found, -⟩ := SvgTag.find?_of_opened head ends (by simp)
  rw [← shape] at found
  rw [found, spliceRoot?, found]
  exact ⟨rfl, _, rfl⟩

/-- **How far the source path reaches**, for every payload and all paths. -/
theorem builtin_provenance (payload : Payload) :
    ∃ head tail component, Provenance payload head tail component := by
  obtain ⟨template, builtin, commented⟩ := exists_builtin
  obtain ⟨head, tail, sections⟩ := exists_sections commented (shares_at payload payload.path)
  have rendered := fun path => sections.rendered path (shares_at payload path)
  obtain ⟨some, component, spliced⟩ := exists_spliceRoot head tail payload.svg
  have write : ∀ payload, writeBuiltin payload = template.write payload := fun payload => by
    rw [writeBuiltin, builtin]
    rfl
  refine ⟨head, tail, component, ?_, fun path closed => ?_,
    fun path => cut?_sourceComment path component, fun fields => ?_, fun path opened => ?_⟩
  · rintro other same path
    rw [builtin] at same
    cases same
    exact rendered path
  · rw [write]
    refine Template.write_eq_ok (rendered path) ?_
    show spliceRoot? _ payload.svg = _
    rw [spliceRoot_sourceComment closed _ _ some, spliced]
    rfl
  · have plain : '>' ∉ componentRoot.itemText := by decide +kernel
    have whole := spliceRoot_plain (sections.free fields) plain tail payload.svg
    rw [List.append_assoc, spliced] at whole
    exact Option.some.inj whole
  · obtain ⟨front, found⟩ := spliceRoot_of_opensIn opened sections.ended payload.svg
    exact ⟨front, by rw [write]; exact Template.write_eq_ok (rendered path) found⟩

/-- The payload of an icon with one colour. -/
def clockPayload : Payload where
  componentName := "TimeFast".toList
  svg := "<svg viewBox=\"0 0 24 24\"><path fill=\x7bfill\x7d/></svg>".toList
  width := "24".toList
  height := "24".toList
  square := true
  heightDefault := "width".toList
  fill := some "\"#fff\"".toList
  stroke := none
  propertyType := "\x7b fill?: string \x7d".toList
  path := "icons/time-fast.svg".toList

/-- **In a directory that is named like a tag, a component loses its icon**, while the same icon of
another directory is drawn. -/
theorem tag_directory_loses_icon :
    let path := "icons/<svg >/time-fast.svg".toList
    (¬ ∃ component,
      writeBuiltin clockPayload = .ok (sourceComment clockPayload.path ++ component) ∧
        writeBuiltin (clockPayload.at path) = .ok (sourceComment path ++ component)) ∧
    (writeBuiltin (clockPayload.at path)).toOption.any
      (Text.contains · componentRoot.print) = true := by
  have ⟨differ, lost⟩ : (writeBuiltin clockPayload).toOption.map
        (·.drop (sourceComment clockPayload.path).length) ≠
      (writeBuiltin (clockPayload.at "icons/<svg >/time-fast.svg".toList)).toOption.map
        (·.drop (sourceComment "icons/<svg >/time-fast.svg".toList).length) ∧
      (writeBuiltin (clockPayload.at "icons/<svg >/time-fast.svg".toList)).toOption.any
        (Text.contains · componentRoot.print) = true := by
    unfold writeBuiltin Template.builtin Engines.builtin builtinSource builtinLines
    simp only [List.flatMap_cons, List.flatMap_nil]
    repeat rw [String.toList_ofList]
    decide +kernel
  refine ⟨?_, lost⟩
  rintro ⟨component, plain, odd⟩
  rw [plain, odd] at differ
  simp [Except.toOption] at differ

end IconComponents
