/-
**Placeholders where the colours stood.**

The colours extracted from a markup are replaced one after the other. This module compares that with
the description of the result: `onePass` reads the markup once from left to right, writes a
placeholder for every fill and stroke that paints, and copies everything else.

* `Occurrences.replacements` — the searches that `Occurrences.install` makes;
* `Occurrence.inPlace` — what stands in the place of one colour;
* `install_eq_onePass` — the searches of both attributes, in any order, give `onePass`, and no
  colour is left in it.
-/

import IconComponents.Proofs.Markup.OnePass

namespace IconComponents

/-! ### The searches of one attribute -/

namespace Occurrences

variable {markup : Text} {paint : PaintAttribute}

/-- What is extracted stands in the markup and paints. -/
theorem mem_extract {text : Text} :
    text ∈ (extract markup paint).texts ↔
      ∃ value ∈ paint.recognise.hits markup, isUnpainted value = false ∧
        text = paint.written value := by
  rw [extract, Text.mem_sortedDistinct, List.mem_map]
  constructor
  · rintro ⟨value, member, rfl⟩
    obtain ⟨found, painted⟩ := List.mem_filter.mp member
    exact ⟨value, found, by simpa using painted, rfl⟩
  · rintro ⟨value, found, painted, rfl⟩
    exact ⟨value, List.mem_filter.mpr ⟨found, by simpa using painted⟩, rfl⟩

theorem nodup_extract : (extract markup paint).texts.Nodup :=
  (Text.sortedDistinct_ascending _).nodup

theorem infix_of_mem_extract {text : Text} (member : text ∈ (extract markup paint).texts) :
    text <:+: markup := by
  obtain ⟨value, found, -, rfl⟩ := mem_extract.mp member
  exact PaintAttribute.infix_of_mem_hits found

/-- The texts that are searched, each with the placeholder that replaces it. -/
def replacements (occurrences : Occurrences) : List (Text × Text) :=
  occurrences.texts.zipIdx.map fun (text, index) => (text, occurrences.placeholder index)

/-- Installing placeholders is replacing texts, one after the other. -/
theorem install_eq_replaceInTurn (occurrences : Occurrences) (markup : Text) :
    occurrences.install markup = replaceInTurn occurrences.replacements markup := by
  rw [install, replaceInTurn, replacements, List.foldl_map]

theorem mem_replacements {occurrences : Occurrences} (nodup : occurrences.texts.Nodup)
    {text replacement : Text} :
    (text, replacement) ∈ occurrences.replacements ↔
      text ∈ occurrences.texts ∧
        replacement = occurrences.placeholder (occurrences.texts.idxOf text) := by
  rw [replacements, List.mem_map]
  constructor
  · rintro ⟨⟨other, index⟩, member, same⟩
    obtain ⟨rfl, rfl⟩ := Prod.mk.inj same
    have found := List.mem_zipIdx_iff_getElem?.mp member
    obtain ⟨bound, get⟩ := List.getElem?_eq_some_iff.mp found
    simp only at bound get
    refine ⟨get ▸ List.getElem_mem bound, ?_⟩
    simp only [← get, nodup.idxOf_getElem index bound]
  · rintro ⟨member, rfl⟩
    refine ⟨(text, occurrences.texts.idxOf text), ?_, rfl⟩
    refine List.mem_zipIdx_iff_getElem?.mpr ?_
    exact List.getElem?_eq_some_iff.mpr ⟨List.idxOf_lt_length_of_mem member, List.getElem_idxOf _⟩

theorem isReplacement_of_mem {rule : Text × Text}
    (member : rule ∈ (extract markup paint).replacements) : IsReplacement rule := by
  obtain ⟨text, replacement⟩ := rule
  obtain ⟨key, rfl⟩ := (mem_replacements nodup_extract).mp member
  obtain ⟨value, found, -, rfl⟩ := mem_extract.mp key
  exact ⟨⟨⟨paint, value⟩, PaintAttribute.plain_of_mem_hits found, rfl⟩, paint, _, rfl⟩

end Occurrences

/-! ### One pass -/

/-- The placeholder of a colour that paints; a colour that does not paint stays. -/
def Occurrence.inPlace (fill stroke : Occurrences) (occurrence : Occurrence) : Text :=
  let set := match occurrence.paint with
    | .fill => fill
    | .stroke => stroke
  if isUnpainted occurrence.value then occurrence.written
  else set.placeholder (set.texts.idxOf occurrence.written)

/-- The markup with every colour written in its place, in one scan. -/
def onePass (fill stroke : Occurrences) (markup : Text) : Text :=
  Occurrence.recognise.rewrite (Occurrence.inPlace fill stroke) markup

section

variable {markup : Text} {rules : List (Text × Text)}

/-- The rules for the colours of a markup, in some order. -/
def AreReplacementsOf (markup : Text) (rules : List (Text × Text)) : Prop :=
  rules.Perm ((Occurrences.extract markup .fill).replacements ++
    (Occurrences.extract markup .stroke).replacements)

theorem AreReplacementsOf.mem_iff (complete : AreReplacementsOf markup rules)
    (rule : Text × Text) :
    rule ∈ rules ↔ ∃ paint, rule ∈ (Occurrences.extract markup paint).replacements := by
  rw [List.Perm.mem_iff complete, List.mem_append]
  constructor
  · rintro (member | member)
    · exact ⟨.fill, member⟩
    · exact ⟨.stroke, member⟩
  · rintro ⟨paint, member⟩
    cases paint with
    | fill => exact Or.inl member
    | stroke => exact Or.inr member

theorem AreReplacementsOf.sound (complete : AreReplacementsOf markup rules) :
    ∀ rule ∈ rules, IsReplacement rule := by
  intro rule member
  obtain ⟨paint, member⟩ := (complete.mem_iff rule).mp member
  exact Occurrences.isReplacement_of_mem member

theorem written_inj {first second : Occurrence} (same : first.written = second.written) :
    first = second := by
  obtain ⟨paint, value⟩ := first
  obtain ⟨other, otherValue⟩ := second
  cases paint <;> cases other
  · simpa [Occurrence.written, PaintAttribute.written] using same
  · exact absurd (List.cons.inj same).1 (by decide)
  · exact absurd (List.cons.inj same).1 (by decide)
  · simpa [Occurrence.written, PaintAttribute.written] using same

/-- A colour of the markup has a rule exactly if it paints, and the rule gives its placeholder. -/
theorem replacement_eq_inPlace (complete : AreReplacementsOf markup rules)
    (separate : HasSeparateColours markup) {occurrence : Occurrence}
    (member : occurrence ∈ Occurrence.recognise.hits markup) :
    occurrence.replacement rules =
      occurrence.inPlace (Occurrences.extract markup .fill) (Occurrences.extract markup .stroke) := by
  have found := (Occurrence.mem_hits_iff separate occurrence).mp member
  have ruled : ∀ text, (occurrence.written, text) ∈ rules →
      isUnpainted occurrence.value = false ∧
        text = (Occurrences.extract markup occurrence.paint).placeholder
          ((Occurrences.extract markup occurrence.paint).texts.idxOf occurrence.written) := by
    intro text isRule
    obtain ⟨paint, isRule⟩ := (complete.mem_iff _).mp isRule
    obtain ⟨key, rfl⟩ := (Occurrences.mem_replacements Occurrences.nodup_extract).mp isRule
    obtain ⟨value, -, painted, same⟩ := Occurrences.mem_extract.mp key
    obtain rfl : occurrence = ⟨paint, value⟩ := written_inj same
    exact ⟨painted, rfl⟩
  rw [Occurrence.replacement]
  cases looked : rules.lookup occurrence.written with
  | some text =>
    obtain ⟨ahead, behind, rfl, -⟩ := List.lookup_eq_some_iff.mp looked
    obtain ⟨painted, rfl⟩ := ruled text (by simp)
    obtain ⟨paint, value⟩ := occurrence
    cases paint <;> simp [Occurrence.inPlace, painted]
  | none =>
    cases painted : isUnpainted occurrence.value with
    | true => simp [Occurrence.inPlace, painted]
    | false =>
      have key : occurrence.written ∈ (Occurrences.extract markup occurrence.paint).texts :=
        Occurrences.mem_extract.mpr ⟨_, found, painted, rfl⟩
      have isRule := (complete.mem_iff (occurrence.written, _)).mpr
        ⟨_, (Occurrences.mem_replacements Occurrences.nodup_extract).mpr ⟨key, rfl⟩⟩
      exact absurd rfl (bne_iff_ne.mp (List.lookup_eq_none_iff.mp looked _ isRule))

/-- Replacing in turn is one pass if colours are separate. -/
theorem replaceInTurn_eq_onePass (separate : HasSeparateColours markup)
    (complete : AreReplacementsOf markup rules) :
    replaceInTurn rules markup =
      onePass (Occurrences.extract markup .fill) (Occurrences.extract markup .stroke) markup := by
  rw [replaceInTurn_eq separate complete.sound, replaceInScan, onePass]
  exact Recogniser.rewrite_congr fun occurrence member =>
    replacement_eq_inPlace complete separate member

/-- A colour that is found behind the replacements was there before and has no rule. -/
theorem mem_hits_replaceInScan (separate : HasSeparateColours markup)
    (sound : ∀ rule ∈ rules, IsReplacement rule) {paint : PaintAttribute} {value : Text}
    (member : value ∈ paint.recognise.hits (replaceInScan rules markup)) :
    value ∈ paint.recognise.hits markup ∧ rules.lookup (paint.written value) = none := by
  induction markup using Occurrence.scan_induction with
  | nil =>
    rw [replaceInScan, Recogniser.rewrite_nil, Recogniser.hits_nil] at member
    cases member
  | plain c text refused ih =>
    rw [replaceInScan_of_plain refused,
      Recogniser.hits_of_none (recognise_replaceInScan sound (refused paint))] at member
    rw [Recogniser.hits_of_none (refused paint)]
    exact ih (separate.of_cons refused) member
  | written occurrence rest plain ih =>
    have later : value ∈ paint.recognise.hits (replaceInScan rules rest) →
        value ∈ paint.recognise.hits (occurrence.written ++ rest) ∧
          rules.lookup (paint.written value) = none := by
      intro member
      obtain ⟨found, unruled⟩ := ih (separate.of_written plain) member
      rw [Occurrence.paint_hits_written plain (separate.head plain)]
      exact ⟨List.mem_append_right _ found, unruled⟩
    rw [replaceInScan_written plain, Occurrence.replacement] at member
    cases looked : rules.lookup occurrence.written with
    | some text =>
      obtain ⟨other, index?, rfl⟩ := lookup_isReplacement sound looked
      rw [looked, Option.getD_some, Recogniser.hits_append_of_refuses
        (PaintAttribute.refuses_placeholder index? _)] at member
      exact later member
    | none =>
      rw [looked, Option.getD_none,
        Occurrence.paint_hits_written plain (separate.head plain)] at member
      rcases List.mem_append.mp member with here | behind
      · by_cases same : occurrence.paint = paint
        · rw [if_pos same, List.mem_singleton] at here
          subst same here
          rw [Occurrence.paint_hits_written plain (separate.head plain), if_pos rfl]
          exact ⟨List.mem_append_left _ List.mem_cons_self, looked⟩
        · rw [if_neg same] at here
          cases here
      · exact later behind

/-- **No colour is left**: extracting again finds nothing. -/
theorem extract_replaceInTurn (separate : HasSeparateColours markup)
    (complete : AreReplacementsOf markup rules) (paint : PaintAttribute) :
    (Occurrences.extract (replaceInTurn rules markup) paint).texts = [] := by
  rw [replaceInTurn_eq separate complete.sound, List.eq_nil_iff_forall_not_mem]
  intro text member
  obtain ⟨value, left, painted, rfl⟩ := Occurrences.mem_extract.mp member
  obtain ⟨found, unruled⟩ := mem_hits_replaceInScan separate complete.sound left
  have key : paint.written value ∈ (Occurrences.extract markup paint).texts :=
    Occurrences.mem_extract.mpr ⟨value, found, painted, rfl⟩
  have isRule := (complete.mem_iff (paint.written value, _)).mpr
    ⟨paint, (Occurrences.mem_replacements Occurrences.nodup_extract).mpr ⟨key, rfl⟩⟩
  exact absurd rfl (bne_iff_ne.mp (List.lookup_eq_none_iff.mp unruled _ isRule))

theorem install_install (fill stroke : Occurrences) :
    stroke.install (fill.install markup) =
      replaceInTurn (fill.replacements ++ stroke.replacements) markup := by
  rw [Occurrences.install_eq_replaceInTurn, Occurrences.install_eq_replaceInTurn, replaceInTurn,
    replaceInTurn, replaceInTurn, List.foldl_append]

end

/-- **Searching for one colour after the other is one pass**: which attribute comes first and in
which order the colours are replaced makes no difference, and no colour is left behind. -/
theorem install_eq_onePass (markup : Text) (separate : HasSeparateColours markup) :
    let fill := Occurrences.extract markup .fill
    let stroke := Occurrences.extract markup .stroke
    stroke.install (fill.install markup) = onePass fill stroke markup ∧
      fill.install (stroke.install markup) = onePass fill stroke markup ∧
      (∀ rules, rules.Perm (fill.replacements ++ stroke.replacements) →
        replaceInTurn rules markup = onePass fill stroke markup) ∧
      ∀ paint, (Occurrences.extract (stroke.install (fill.install markup)) paint).texts = [] := by
  intro fill stroke
  have inOrder : AreReplacementsOf markup (fill.replacements ++ stroke.replacements) :=
    List.Perm.refl _
  have swapped : AreReplacementsOf markup (stroke.replacements ++ fill.replacements) :=
    List.perm_append_comm
  refine ⟨?_, ?_, fun rules complete => replaceInTurn_eq_onePass separate complete, ?_⟩
  · rw [install_install]
    exact replaceInTurn_eq_onePass separate inOrder
  · rw [install_install]
    exact replaceInTurn_eq_onePass separate swapped
  · intro paint
    rw [install_install]
    exact extract_replaceInTurn separate inOrder paint

/-- Two fills, one stroke, and a stroke that does not paint. -/
theorem install_two_fills :
    let markup := "<g fill=\"red\" stroke=\"none\"><path fill=\"blue\" stroke=\"red\"/></g>".toList
    let fill := Occurrences.extract markup .fill
    let stroke := Occurrences.extract markup .stroke
    HasSeparateColours markup ∧
      onePass fill stroke markup =
        "<g fill=\x7bfill[1]\x7d stroke=\"none\"><path fill=\x7bfill[0]\x7d stroke=\x7bstroke\x7d/></g>".toList ∧
      fill.install (stroke.install markup) = onePass fill stroke markup :=
  ⟨by decide +kernel, by decide +kernel, (install_eq_onePass _ (by decide +kernel)).2.1⟩

end IconComponents
