/-
**Replacing colours one after the other is one pass.**

A list of rules is applied by one search of the whole markup after the other (`replaceInTurn`), in
text that the searches before have changed. `replaceInScan` reads the markup once from left to right
and replaces each colour where it stands. Both give the same text, in whatever order the rules come,
if no value ends in `fill=` or `stroke=`: only such a value lets two attributes share a quote.

The argument goes over the segments of one scan for both attributes:

* `hits_eq_filterMap` — that scan finds what the scans for one attribute find;
* `recognise_replaceInScan` — no replacement makes a colour start where none started before;
* `replaceAll_replaceInScan` — so one more search replaces one more colour, and nothing else;
* `replaceInTurn_eq` — hence any list of searches is one pass.
-/

import IconComponents.Proofs.Markup.Occurrence
import IconComponents.Proofs.Text.Order

namespace IconComponents

/-! ### Colours of a markup -/

namespace PaintAttribute

variable {paint : PaintAttribute} {markup value : Text}

theorem plain_of_mem_hits (member : value ∈ paint.recognise.hits markup) : '"' ∉ value := by
  induction markup using Recogniser.scan_induction paint.recognise with
  | nil => rw [Recogniser.hits_nil] at member; cases member
  | plain c text refused ih => exact ih (by rwa [Recogniser.hits_of_none refused] at member)
  | hit text hit found ih =>
    rw [Recogniser.hits_of_some found] at member
    rcases List.mem_cons.mp member with rfl | later
    · exact (of_recognise found).2
    · exact ih later

theorem infix_of_mem_hits (member : value ∈ paint.recognise.hits markup) :
    paint.written value <:+: markup := by
  induction markup using Recogniser.scan_induction paint.recognise with
  | nil => rw [Recogniser.hits_nil] at member; cases member
  | plain c text refused ih =>
    rw [Recogniser.hits_of_none refused] at member
    exact (ih member).trans (List.suffix_cons c text).isInfix
  | hit text hit found ih =>
    obtain ⟨split, -⟩ := of_recognise found
    rw [Recogniser.hits_of_some found] at member
    rcases List.mem_cons.mp member with rfl | later
    · exact ⟨[], hit.rest, split.symm⟩
    · exact (ih later).trans ⟨paint.written hit.value, [], by rw [List.append_nil]; exact split.symm⟩

end PaintAttribute

/-- No value of a colour in the markup ends in the name of an attribute with `=` behind it. -/
def HasSeparateColours (markup : Text) : Prop :=
  ∀ paint other : PaintAttribute, ∀ value ∈ paint.recognise.hits markup,
    ¬ other.name ++ ['='] <:+ value

instance : DecidablePred HasSeparateColours := fun markup =>
  inferInstanceAs (Decidable (∀ paint other : PaintAttribute,
    ∀ value ∈ paint.recognise.hits markup, ¬ other.name ++ ['='] <:+ value))

namespace Occurrence

/-- A written attribute gives one colour of its own kind, and none of the other kind. -/
theorem paint_hits_written {occurrence : Occurrence} (plain : '"' ∉ occurrence.value)
    (separate : ∀ other : PaintAttribute, ¬ other.name ++ ['='] <:+ occurrence.value)
    (paint : PaintAttribute) (rest : Text) :
    paint.recognise.hits (occurrence.written ++ rest) =
      (if occurrence.paint = paint then [occurrence.value] else []) ++
        paint.recognise.hits rest := by
  by_cases same : occurrence.paint = paint
  · rw [if_pos same, ← same]
    exact PaintAttribute.hits_written plain rest
  · rw [if_neg same, List.nil_append]
    exact Recogniser.hits_append_of_refuses
      (PaintAttribute.refuses_written plain (separate paint) (Ne.symm same) rest)

end Occurrence

namespace HasSeparateColours

theorem of_cons {c : Char} {text : Text} (separate : HasSeparateColours (c :: text))
    (refused : ∀ paint : PaintAttribute, paint.recognise (c :: text) = none) :
    HasSeparateColours text := by
  intro paint other value member
  refine separate paint other value ?_
  rwa [Recogniser.hits_of_none (refused paint)]

theorem head {occurrence : Occurrence} {rest : Text} (plain : '"' ∉ occurrence.value)
    (separate : HasSeparateColours (occurrence.written ++ rest)) (other : PaintAttribute) :
    ¬ other.name ++ ['='] <:+ occurrence.value := by
  refine separate occurrence.paint other _ ?_
  rw [Occurrence.written, PaintAttribute.hits_written plain]
  exact List.mem_cons_self

theorem of_written {occurrence : Occurrence} {rest : Text} (plain : '"' ∉ occurrence.value)
    (separate : HasSeparateColours (occurrence.written ++ rest)) : HasSeparateColours rest := by
  intro paint other value member
  refine separate paint other value ?_
  rw [Occurrence.paint_hits_written plain (separate.head plain)]
  exact List.mem_append_right _ member

end HasSeparateColours

namespace Occurrence

/-- **The scan for both attributes finds what the two scans find.** -/
theorem hits_eq_filterMap {markup : Text} (separate : HasSeparateColours markup)
    (paint : PaintAttribute) :
    paint.recognise.hits markup = (recognise.hits markup).filterMap fun occurrence =>
      if occurrence.paint = paint then some occurrence.value else none := by
  induction markup using scan_induction with
  | nil => rw [Recogniser.hits_nil, Recogniser.hits_nil]; rfl
  | plain c text refused ih =>
    rw [Recogniser.hits_of_none (recognise_eq_none_iff.mpr refused),
      Recogniser.hits_of_none (refused paint)]
    exact ih (separate.of_cons refused)
  | written occurrence rest plain ih =>
    rw [paint_hits_written plain (separate.head plain), hits_written plain, List.filterMap_cons,
      ih (separate.of_written plain)]
    by_cases same : occurrence.paint = paint
    · rw [if_pos same, if_pos same]
      rfl
    · rw [if_neg same, if_neg same]
      rfl

theorem mem_hits_iff {markup : Text} (separate : HasSeparateColours markup)
    (occurrence : Occurrence) :
    occurrence ∈ recognise.hits markup ↔
      occurrence.value ∈ occurrence.paint.recognise.hits markup := by
  rw [hits_eq_filterMap separate, List.mem_filterMap]
  constructor
  · intro member
    exact ⟨occurrence, member, if_pos rfl⟩
  · rintro ⟨other, member, found⟩
    split at found
    · next paintEq =>
      have valueEq := Option.some.inj found
      obtain ⟨paint, value⟩ := occurrence
      obtain ⟨otherPaint, otherValue⟩ := other
      subst paintEq valueEq
      exact member
    · cases found

/-! ### Replacements -/

/-- What is written for an occurrence: what the rules say, or the occurrence as it is. -/
def replacement (rules : List (Text × Text)) (occurrence : Occurrence) : Text :=
  (rules.lookup occurrence.written).getD occurrence.written

end Occurrence

/-- A rule that puts a placeholder in the place of a written attribute. -/
def IsReplacement (rule : Text × Text) : Prop :=
  (∃ occurrence : Occurrence, '"' ∉ occurrence.value ∧ rule.1 = occurrence.written) ∧
    ∃ (paint : PaintAttribute) (index? : Option Nat), rule.2 = paint.placeholder index?

/-- One search and replacement after the other. -/
def replaceInTurn (rules : List (Text × Text)) (markup : Text) : Text :=
  rules.foldl (fun markup rule => Text.replaceAll rule.1 rule.2 markup) markup

/-- The markup with every colour that has a rule replaced where it stands. -/
def replaceInScan (rules : List (Text × Text)) (markup : Text) : Text :=
  Occurrence.recognise.rewrite (Occurrence.replacement rules) markup

variable {rules : List (Text × Text)} {markup : Text}

theorem lookup_isReplacement (sound : ∀ rule ∈ rules, IsReplacement rule) {key text : Text}
    (found : rules.lookup key = some text) :
    ∃ (paint : PaintAttribute) (index? : Option Nat), text = paint.placeholder index? := by
  obtain ⟨ahead, behind, rfl, -⟩ := List.lookup_eq_some_iff.mp found
  exact (sound (key, text) (by simp)).2

/-- What replaces a colour starts with the name of a colour. -/
theorem replacement_starts (sound : ∀ rule ∈ rules, IsReplacement rule) (occurrence : Occurrence) :
    ∃ (paint : PaintAttribute) (behind : Text),
      occurrence.replacement rules = paint.name ++ behind := by
  rw [Occurrence.replacement]
  cases found : rules.lookup occurrence.written with
  | none =>
    refine ⟨occurrence.paint, '=' :: '"' :: (occurrence.value ++ ['"']), ?_⟩
    simp [Occurrence.written, PaintAttribute.written, PaintAttribute.opening]
  | some text =>
    obtain ⟨paint, index?, rfl⟩ := lookup_isReplacement sound found
    exact ⟨paint, _, PaintAttribute.placeholder_eq paint index?⟩

theorem replaceInScan_of_plain {c : Char} {text : Text}
    (refused : ∀ paint : PaintAttribute, paint.recognise (c :: text) = none) :
    replaceInScan rules (c :: text) = c :: replaceInScan rules text :=
  Recogniser.rewrite_of_none (Occurrence.recognise_eq_none_iff.mpr refused)

theorem replaceInScan_written {occurrence : Occurrence} (plain : '"' ∉ occurrence.value)
    (rest : Text) :
    replaceInScan rules (occurrence.written ++ rest) =
      occurrence.replacement rules ++ replaceInScan rules rest :=
  Occurrence.rewrite_written plain rest

theorem replaceInScan_nil : replaceInScan [] markup = markup := by
  induction markup using Occurrence.scan_induction with
  | nil => exact Recogniser.rewrite_nil
  | plain c text refused ih => rw [replaceInScan_of_plain refused, ih]
  | written occurrence rest plain ih =>
    rw [replaceInScan_written plain, ih]
    rfl

/-! ### No replacement makes a colour start -/

/-- A text without the first letters of the names was there before the replacements. -/
theorem eq_append_of_replaceInScan (sound : ∀ rule ∈ rules, IsReplacement rule) {needed rest : Text}
    (foreign : ∀ c ∈ needed, c ≠ 'f' ∧ c ≠ 's') (same : replaceInScan rules markup = needed ++ rest) :
    ∃ original, markup = needed ++ original ∧ rest = replaceInScan rules original := by
  induction needed generalizing markup with
  | nil => exact ⟨markup, rfl, same.symm⟩
  | cons n needed ih =>
    obtain ⟨notF, notS⟩ := foreign n List.mem_cons_self
    cases markup using Occurrence.scan_induction with
    | nil =>
      rw [replaceInScan, Recogniser.rewrite_nil] at same
      cases same
    | plain c text refused =>
      rw [replaceInScan_of_plain refused] at same
      obtain ⟨rfl, tailSame⟩ := List.cons.inj same
      obtain ⟨original, rfl, restEq⟩ :=
        ih (fun other member => foreign other (List.mem_cons_of_mem _ member)) tailSame
      exact ⟨original, rfl, restEq⟩
    | written occurrence text plain =>
      obtain ⟨paint, behind, starts⟩ := replacement_starts sound occurrence
      rw [replaceInScan_written plain, starts, List.append_assoc] at same
      cases paint with
      | fill => exact absurd (List.cons.inj same).1.symm notF
      | stroke => exact absurd (List.cons.inj same).1.symm notS

/-- No replacement adds a quote. -/
theorem quote_mem_of_replaceInScan (member : '"' ∈ replaceInScan rules markup) : '"' ∈ markup := by
  induction markup using Occurrence.scan_induction with
  | nil =>
    rw [replaceInScan, Recogniser.rewrite_nil] at member
    cases member
  | plain c text refused ih =>
    rw [replaceInScan_of_plain refused] at member
    rcases List.mem_cons.mp member with rfl | later
    · exact List.mem_cons_self
    · exact List.mem_cons_of_mem _ (ih later)
  | written occurrence rest plain ih =>
    refine List.mem_append_left _ ?_
    simp [Occurrence.written, PaintAttribute.written]

/-- **No colour starts after the replacements where none started before.** -/
theorem recognise_replaceInScan (sound : ∀ rule ∈ rules, IsReplacement rule) {c : Char}
    {text : Text} {paint : PaintAttribute} (refused : paint.recognise (c :: text) = none) :
    paint.recognise (c :: replaceInScan rules text) = none := by
  refine PaintAttribute.recognise_eq_none_iff.mpr fun rest start member => ?_
  obtain ⟨first, needed, shape, foreign⟩ : ∃ first needed, paint.opening = first :: needed ∧
      ∀ c ∈ needed, c ≠ 'f' ∧ c ≠ 's' := by
    cases paint with
    | fill => exact ⟨_, _, rfl, Text.forall_mem_of_all (by decide)⟩
    | stroke => exact ⟨_, _, rfl, Text.forall_mem_of_all (by decide)⟩
  rw [shape, List.cons_append] at start
  obtain ⟨rfl, tailStart⟩ := List.cons.inj start
  obtain ⟨original, rfl, rfl⟩ := eq_append_of_replaceInScan sound foreign tailStart
  refine PaintAttribute.recognise_eq_none_iff.mp refused original ?_
    (quote_mem_of_replaceInScan member)
  rw [shape, List.cons_append]

/-! ### Searches in turn -/

/-- **One more search replaces one more colour, and nothing else.** -/
theorem replaceAll_replaceInScan (separate : HasSeparateColours markup)
    (sound : ∀ rule ∈ rules, IsReplacement rule) {sought : Occurrence} (plain : '"' ∉ sought.value)
    (text : Text) :
    Text.replaceAll sought.written text (replaceInScan rules markup) =
      replaceInScan (rules ++ [(sought.written, text)]) markup := by
  have nonempty : sought.written ≠ [] := by simp [Occurrence.written, PaintAttribute.written]
  induction markup using Occurrence.scan_induction with
  | nil => simp [replaceInScan, Text.replaceAll]
  | plain c behind refused ih =>
    have absent : Recogniser.literal sought.written (c :: replaceInScan rules behind) = none :=
      PaintAttribute.literal_eq_none (recognise_replaceInScan sound (refused sought.paint)) _
    rw [replaceInScan_of_plain refused, replaceInScan_of_plain refused,
      Text.replaceAll_of_none nonempty absent, ih (separate.of_cons refused)]
  | written occurrence rest free ih =>
    have later := ih (separate.of_written free)
    rw [replaceInScan_written free, replaceInScan_written free, Occurrence.replacement,
      Occurrence.replacement, List.lookup_append]
    cases found : rules.lookup occurrence.written with
    | some placed =>
      obtain ⟨paint, index?, rfl⟩ := lookup_isReplacement sound found
      have absent : (Recogniser.literal sought.written).Refuses (paint.placeholder index?)
          (replaceInScan rules rest) :=
        PaintAttribute.literal_refuses (PaintAttribute.refuses_placeholder index? _) _
      rw [Option.getD_some, Text.replaceAll_append_of_refuses nonempty absent, later]
      rfl
    | none =>
      by_cases same : sought.written = occurrence.written
      · have added : [(sought.written, text)].lookup occurrence.written = some text := by
          rw [same, List.lookup_cons_self]
        rw [added, Option.getD_none, ← same, Text.replaceAll_needle_append nonempty, later]
        rfl
      · have absent : (Recogniser.literal sought.written).Refuses occurrence.written
            (replaceInScan rules rest) :=
          PaintAttribute.literal_refuses_written free plain (separate.head free sought.paint) same _
        have skipped : [(sought.written, text)].lookup occurrence.written = none := by
          simp [List.lookup_cons, beq_false_of_ne (Ne.symm same)]
        rw [skipped, Option.getD_none, Text.replaceAll_append_of_refuses nonempty absent, later]
        rfl

/-- **Searches in turn are one scan**, whatever the rules and their order. -/
theorem replaceInTurn_eq (separate : HasSeparateColours markup)
    (sound : ∀ rule ∈ rules, IsReplacement rule) :
    replaceInTurn rules markup = replaceInScan rules markup := by
  suffices step : ∀ done : List (Text × Text), (∀ rule ∈ done, IsReplacement rule) →
      replaceInTurn rules (replaceInScan done markup) = replaceInScan (done ++ rules) markup by
    have := step [] (fun rule member => absurd member List.not_mem_nil)
    rwa [replaceInScan_nil, List.nil_append] at this
  induction rules with
  | nil =>
    intro done _
    rw [List.append_nil]
    rfl
  | cons rule rules ih =>
    intro done earlier
    obtain ⟨⟨sought, plain, key⟩, placed⟩ := sound rule List.mem_cons_self
    have further : ∀ other ∈ done ++ [rule], IsReplacement other := by
      intro other member
      rcases List.mem_append.mp member with early | last
      · exact earlier other early
      · rw [List.mem_singleton.mp last]
        exact ⟨⟨sought, plain, key⟩, placed⟩
    have one : Text.replaceAll rule.1 rule.2 (replaceInScan done markup) =
        replaceInScan (done ++ [rule]) markup := by
      obtain ⟨needle, text⟩ := rule
      rw [show needle = sought.written from key]
      exact replaceAll_replaceInScan separate earlier plain text
    calc replaceInTurn (rule :: rules) (replaceInScan done markup)
        = replaceInTurn rules (replaceInScan (done ++ [rule]) markup) := by
          rw [← one]
          rfl
      _ = replaceInScan (done ++ rule :: rules) markup := by
          rw [ih (fun other member => sound other (List.mem_cons_of_mem _ member)) _ further,
            List.append_assoc]
          rfl

end IconComponents
