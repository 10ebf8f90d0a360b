/-
**What extraction finds in well-formed markup.**

A colour is found in flat text, by a name with `="` behind it. So what is found depends on the
pieces between double quotes only: a piece is taken as a value if the piece before it ends in the
name and `=`, whether the quote between them opens a value or closes one.

* `PaintAttribute.quotedBehind`, `hits_eq_quotedBehind` — what a scan finds in any text, read off
  the pieces;
* `hits_print` — what it finds in well-formed markup whose values do not end in the name and `=`;
* `extract_markup` — what extraction makes of well-formed markup, and when it finds exactly the
  attributes with the complete name;
* `extract_misses` — a longer name that is found, and a colour that is not.
-/

import IconComponents.Proofs.Markup.Document
import IconComponents.Proofs.Text.Order
import IconComponents.Proofs.Text.Pieces

namespace IconComponents

namespace PaintAttribute

variable {paint : PaintAttribute} {before value text : Text}

/-! ### Any text -/

/-- The pieces between quotes that are taken as values: each behind a piece that ends in the
attribute's name and `=`, unless that piece is itself taken. -/
def quotedBehind (paint : PaintAttribute) : List Text → List Text
  | before :: value :: behind :: pieces =>
    if paint.name ++ ['='] <:+ before then value :: quotedBehind paint (behind :: pieces)
    else quotedBehind paint (value :: behind :: pieces)
  | _ => []

theorem quotedBehind_cons_of_not_suffix (other : ¬ paint.name ++ ['='] <:+ before)
    (pieces : List Text) : paint.quotedBehind (before :: pieces) = paint.quotedBehind pieces := by
  rcases pieces with _ | ⟨value, _ | ⟨behind, pieces⟩⟩
  · rfl
  · rfl
  · rw [quotedBehind, if_neg other]

theorem quotedBehind_cons_of_suffix (named : paint.name ++ ['='] <:+ before)
    {pieces : List Text} (some : pieces ≠ []) :
    paint.quotedBehind (before :: value :: pieces) = value :: paint.quotedBehind pieces := by
  obtain ⟨behind, pieces, rfl⟩ := List.exists_cons_of_ne_nil some
  rw [quotedBehind, if_pos named]

/-- Without a quote nothing is found. -/
theorem hits_of_quoteFree (free : '"' ∉ text) : paint.recognise.hits text = [] := by
  induction text with
  | nil => exact Recogniser.hits_nil
  | cons c text ih =>
    rw [Recogniser.hits_of_none, ih fun member => free (List.mem_cons_of_mem _ member)]
    refine recognise_eq_none_iff.mpr fun rest same => ?_
    refine absurd ?_ free
    rw [same, opening]
    simp

/-- A colour that starts before the first quote of a text has it behind the name and `=`. -/
theorem eq_of_opening {rest behind : Text} (free : '"' ∉ before)
    (start : before ++ '"' :: behind = paint.opening ++ rest) : before = paint.name ++ ['='] := by
  have nameFree : '"' ∉ paint.name ++ ['='] := by cases paint <;> decide
  have shape : paint.opening ++ rest = (paint.name ++ ['=']) ++ '"' :: rest := by simp [opening]
  exact (Text.append_cons_inj free nameFree (start.trans shape)).1

/-- No colour starts before the first quote if the name and `=` do not stand there. -/
theorem hits_of_not_suffix (free : '"' ∉ before) (other : ¬ paint.name ++ ['='] <:+ before)
    (behind : Text) :
    paint.recognise.hits (before ++ '"' :: behind) = paint.recognise.hits behind := by
  rw [← List.singleton_append, ← List.append_assoc]
  refine Recogniser.hits_append_of_refuses fun ahead tail split some => ?_
  obtain ⟨inner, rfl, rfl⟩ := Text.concat_of_append_eq some split
  refine recognise_eq_none_iff.mpr fun rest start => ?_
  have named := eq_of_opening (fun member => free (List.mem_append_right _ member))
    (show inner ++ '"' :: behind = _ by rw [← start]; simp)
  exact absurd (named ▸ List.suffix_append _ _) other

/-- A colour starts with the name and `=` in front of the first quote. -/
theorem hits_of_suffix (free : '"' ∉ before) (named : paint.name ++ ['='] <:+ before)
    (plain : '"' ∉ value) (behind : Text) :
    paint.recognise.hits (before ++ '"' :: (value ++ '"' :: behind)) =
      value :: paint.recognise.hits behind := by
  obtain ⟨ahead, rfl⟩ := named
  have shape : ahead ++ (paint.name ++ ['=']) ++ '"' :: (value ++ '"' :: behind) =
      ahead ++ (paint.written value ++ behind) := by
    simp [written, opening]
  rw [shape, Recogniser.hits_append_of_refuses, hits_written plain]
  intro _ tail split some
  refine recognise_eq_none_iff.mpr fun rest start => ?_
  have tailFree : '"' ∉ tail ++ (paint.name ++ ['=']) := by
    rw [split, List.append_assoc] at free
    exact fun member => free (List.mem_append_right _ member)
  have named := eq_of_opening tailFree
    (show (tail ++ (paint.name ++ ['='])) ++ '"' :: (value ++ '"' :: behind) = _ by
      rw [← start, written, opening]; simp)
  exact absurd (List.append_left_eq_self.mp named) some

/-- Behind the last quote nothing starts, and nothing that starts before it ends. -/
theorem hits_of_unclosed {behind : Text} (free : '"' ∉ before) (closed : '"' ∉ behind) :
    paint.recognise.hits (before ++ '"' :: behind) = [] := by
  rw [← List.append_nil (before ++ _), Recogniser.hits_append_of_refuses, Recogniser.hits_nil]
  intro ahead tail split _
  refine recognise_eq_none_iff.mpr fun rest start => ?_
  rw [List.append_nil] at start
  have single : (before ++ '"' :: behind).count '"' = 1 := by
    rw [List.count_append, List.count_cons_self, List.count_eq_zero.mpr free,
      List.count_eq_zero.mpr closed]
  have opened : paint.opening.count '"' = 1 := by cases paint <;> decide
  rw [split, start, List.count_append, List.count_append, opened] at single
  exact List.count_eq_zero.mp (by omega)

/-- **What a scan finds** depends on the pieces between quotes only. The scan passes the first quote
or takes the value up to the second one, so the induction is on what is left: a value that is taken
uses up two of the pieces. -/
theorem hits_eq_quotedBehind (paint : PaintAttribute) (text : Text) :
    paint.recognise.hits text = paint.quotedBehind (Text.splitOn '"' text) := by
  induction size : text.length using Nat.strongRecOn generalizing text with
  | _ n ih =>
    subst size
    by_cases quoted : '"' ∈ text
    · obtain ⟨before, behind, rfl, free⟩ := List.eq_append_cons_of_mem quoted
      have shorter : behind.length < (before ++ '"' :: behind).length := by
        simp only [List.length_append, List.length_cons]
        omega
      rw [Text.splitOn_append_cons free]
      by_cases named : paint.name ++ ['='] <:+ before
      · by_cases closed : '"' ∈ behind
        · obtain ⟨value, rest, rfl, plain⟩ := List.eq_append_cons_of_mem closed
          have shorter' : rest.length < (value ++ '"' :: rest).length := by
            simp only [List.length_append, List.length_cons]
            omega
          rw [Text.splitOn_append_cons plain, hits_of_suffix free named plain,
            quotedBehind_cons_of_suffix named (Text.splitOn_ne_nil _ rest),
            ih _ (Nat.lt_trans shorter' shorter) rest rfl]
        · rw [Text.splitOn_of_free closed]
          exact hits_of_unclosed free closed
      · rw [hits_of_not_suffix free named, quotedBehind_cons_of_not_suffix named,
          ih _ shorter behind rfl]
    · rw [hits_of_quoteFree quoted, Text.splitOn_of_free quoted]
      rfl

end PaintAttribute

namespace Document

variable {paint : PaintAttribute} {lead : Text}

/-! ### Well-formed markup -/

/-- Whether the text in front of an attribute's value ends in a paint's name and `=` is settled by
the attribute's name. -/
theorem suffix_opening_iff (lead : Text) (entry : Attribute) :
    paint.name ++ ['='] <:+ lead ++ (entry.gap.text ++ (entry.name ++ ['='])) ↔
      paint.name <:+ entry.name := by
  have solid : ∀ c ∈ paint.name, Char.isBlank c = false := by
    cases paint <;> exact Text.forall_mem_of_all rfl
  constructor
  · rintro ⟨ahead, same⟩
    obtain ⟨same, -⟩ := List.append_inj' (show (ahead ++ paint.name) ++ ['='] =
      (lead ++ entry.gap.text ++ entry.name) ++ ['='] by simpa using same) rfl
    rcases List.append_eq_append_iff.mp same with ⟨gap, blanks, nameEq⟩ | ⟨gap, -, nameEq⟩
    · rcases List.eq_nil_or_concat' gap with rfl | ⟨gap, last, rfl⟩
      · exact ⟨[], nameEq⟩
      · obtain ⟨inner, final, shape, -, blank⟩ := entry.gap.exists_last
        rw [shape, ← List.append_assoc, ← List.append_assoc] at blanks
        have lastEq : final = last := List.singleton_inj.mp (List.append_inj' blanks rfl).2
        rw [lastEq, solid last (by simp [nameEq])] at blank
        cases blank
    · exact ⟨gap, nameEq.symm⟩
  · rintro ⟨ahead, same⟩
    exact ⟨lead ++ entry.gap.text ++ ahead, by simp [← same]⟩

/-- What extraction takes from an attribute. -/
def Attribute.found (paint : PaintAttribute) (entry : Attribute) : List Text :=
  if paint.name <:+ entry.name then [entry.value] else []

/-- The values that are found in an attribute. -/
theorem hits_attribute (free : '"' ∉ lead) {entry : Attribute}
    (quiet : ¬ paint.name ++ ['='] <:+ entry.value) (rest : Text) :
    paint.recognise.hits (lead ++ (entry.print ++ rest)) =
      entry.found paint ++ paint.recognise.hits rest := by
  have shape : lead ++ (entry.print ++ rest) =
      (lead ++ (entry.gap.text ++ (entry.name ++ ['=']))) ++
        '"' :: (entry.value ++ '"' :: rest) := by
    simp [Attribute.print, Element.quoted]
  have blanks : '"' ∉ entry.gap.text := not_mem_of_blank (by decide) entry.gap.blank
  have name : '"' ∉ entry.name := not_mem_of_nameParts (by decide) entry.nameParts
  have free' : '"' ∉ lead ++ (entry.gap.text ++ (entry.name ++ ['='])) := by
    simp [free, blanks, name]
  rw [shape, Attribute.found]
  by_cases named : paint.name <:+ entry.name
  · rw [if_pos named, PaintAttribute.hits_of_suffix free' ((suffix_opening_iff _ _).mpr named)
      entry.plain, List.singleton_append]
  · rw [if_neg named, PaintAttribute.hits_of_not_suffix free' (mt (suffix_opening_iff _ _).mp named),
      PaintAttribute.hits_of_not_suffix entry.plain quiet, List.nil_append]

/-- What is found in a tag's inside, and a text without quotes that is left in front of the rest. -/
theorem hits_attributes {attributes : List Attribute} (free : '"' ∉ lead)
    (quiet : ∀ entry ∈ attributes, ¬ paint.name ++ ['='] <:+ entry.value) :
    ∃ left, '"' ∉ left ∧ ∀ rest,
      paint.recognise.hits (lead ++ (printAttributes attributes ++ rest)) =
        attributes.flatMap (·.found paint) ++ paint.recognise.hits (left ++ rest) := by
  induction attributes generalizing lead with
  | nil => exact ⟨lead, free, fun rest => rfl⟩
  | cons entry attributes ih =>
    rw [List.forall_mem_cons] at quiet
    obtain ⟨left, free', same⟩ := ih List.not_mem_nil quiet.2
    refine ⟨left, free', fun rest => ?_⟩
    rw [printAttributes_cons, List.append_assoc, hits_attribute free quiet.1, List.flatMap_cons,
      List.append_assoc, ← same rest, List.nil_append]

/-- Markup in which only attributes' values stand between quotes, and none of them ends in the
name and `=`. -/
structure IsQuiet (paint : PaintAttribute) (markup : Markup) : Prop where
  ahead : '"' ∉ markup.words
  behind : ∀ tag ∈ markup.tags, '"' ∉ tag.words
  values : ∀ entry ∈ markup.attributes, ¬ paint.name ++ ['='] <:+ entry.value

/-- The values that are found in tags are those found in their attributes. -/
theorem hits_tags {tags : List Tag} (free : '"' ∉ lead) (behind : ∀ tag ∈ tags, '"' ∉ tag.words)
    (quiet : ∀ tag ∈ tags, ∀ entry ∈ tag.attributes, ¬ paint.name ++ ['='] <:+ entry.value) :
    paint.recognise.hits (lead ++ printTags tags) =
      (tags.flatMap (·.attributes)).flatMap (·.found paint) := by
  induction tags generalizing lead with
  | nil =>
    show paint.recognise.hits (lead ++ []) = []
    rw [List.append_nil, PaintAttribute.hits_of_quoteFree free]
  | cons tag tags ih =>
    rw [List.forall_mem_cons] at behind quiet
    have name : '"' ∉ tag.name := not_mem_of_nameParts (by decide) tag.nameParts
    have ending : '"' ∉ tag.ending := Tag.not_mem_ending (by decide) (by decide) (by decide)
    have opened : '"' ∉ lead ++ '<' :: tag.name := by simp [free, name]
    obtain ⟨left, free', same⟩ := hits_attributes opened quiet.1
    have shape : lead ++ printTags (tag :: tags) =
        lead ++ '<' :: tag.name ++ (printAttributes tag.attributes ++
          (tag.ending ++ '>' :: tag.words ++ printTags tags)) := by
      simp [printTags_cons]
    rw [shape, same, ← List.append_assoc, ih (by simp [free', ending, behind.1]) behind.2 quiet.2,
      List.flatMap_cons, List.flatMap_append]

/-- **What is found in well-formed markup**: the values of all attributes whose names end in the
name. -/
theorem hits_print {markup : Markup} (quiet : IsQuiet paint markup) :
    paint.recognise.hits markup.print = markup.attributes.flatMap (·.found paint) :=
  hits_tags quiet.ahead quiet.behind fun tag member entry member' =>
    quiet.values entry (List.mem_flatMap.mpr ⟨tag, member, member'⟩)

/-- The texts of the painted attributes whose names fulfil a condition. -/
def Colours (paint : PaintAttribute) (counts : Text → Prop) (markup : Markup) (text : Text) : Prop :=
  ∃ entry ∈ markup.attributes, counts entry.name ∧ isUnpainted entry.value = false ∧
    text = paint.written entry.value

theorem mem_found_iff {value : Text} {entry : Attribute} :
    value ∈ entry.found paint ↔ paint.name <:+ entry.name ∧ value = entry.value := by
  unfold Attribute.found
  by_cases named : paint.name <:+ entry.name <;> simp [named]

/-- The colours of attributes with longer names are those of attributes with the complete name
exactly if none of them is new. -/
theorem colours_iff_of_suffix (markup : Markup) (paint : PaintAttribute) :
    (∀ text, Colours paint (paint.name <:+ ·) markup text ↔ Colours paint (· = paint.name) markup text)
      ↔ ∀ entry ∈ markup.attributes, paint.name <:+ entry.name → isUnpainted entry.value = false →
        ∃ other ∈ markup.attributes, other.name = paint.name ∧ other.value = entry.value := by
  constructor
  · intro same entry member named painted
    obtain ⟨other, among, complete, -, written⟩ :=
      (same _).mp ⟨entry, member, named, painted, rfl⟩
    have value : entry.value = other.value := by simpa [PaintAttribute.written] using written
    exact ⟨other, among, complete, value.symm⟩
  · intro known text
    constructor
    · rintro ⟨entry, member, named, painted, rfl⟩
      obtain ⟨other, among, complete, value⟩ := known entry member named painted
      exact ⟨other, among, complete, value ▸ painted, value ▸ rfl⟩
    · rintro ⟨entry, member, complete, painted, rfl⟩
      exact ⟨entry, member, complete ▸ List.suffix_refl _, painted, rfl⟩

/-- **What extraction finds in well-formed markup.** The texts it finds are sorted and distinct, and
their values are the painted ones among the pieces behind quotes. If only values stand between
quotes and none of them ends in the name and `=`, they are the attributes whose names end in the
name; then they are the attributes with the complete name exactly if those hold every colour of the
longer names. -/
theorem extract_markup (markup : Markup) (paint : PaintAttribute) :
    Text.IsAscending (Occurrences.extract markup.print paint).texts ∧
      (∀ text, text ∈ (Occurrences.extract markup.print paint).texts ↔
        ∃ value ∈ paint.quotedBehind (Text.splitOn '"' markup.print),
          isUnpainted value = false ∧ text = paint.written value) ∧
      (IsQuiet paint markup →
        (∀ text, text ∈ (Occurrences.extract markup.print paint).texts ↔
          Colours paint (paint.name <:+ ·) markup text) ∧
        ((∀ text, text ∈ (Occurrences.extract markup.print paint).texts ↔
            Colours paint (· = paint.name) markup text) ↔
          ∀ entry ∈ markup.attributes, paint.name <:+ entry.name →
            isUnpainted entry.value = false →
            ∃ other ∈ markup.attributes, other.name = paint.name ∧ other.value = entry.value)) := by
  refine ⟨Text.sortedDistinct_ascending _, fun text => ?_, fun quiet => ?_⟩
  · rw [Occurrences.mem_extract, PaintAttribute.hits_eq_quotedBehind]
  · have found (text : Text) : text ∈ (Occurrences.extract markup.print paint).texts ↔
        Colours paint (paint.name <:+ ·) markup text := by
      rw [Occurrences.mem_extract, hits_print quiet]
      constructor
      · rintro ⟨value, member, painted, rfl⟩
        obtain ⟨entry, among, member⟩ := List.mem_flatMap.mp member
        obtain ⟨named, rfl⟩ := mem_found_iff.mp member
        exact ⟨entry, among, named, painted, rfl⟩
      · rintro ⟨entry, among, named, painted, rfl⟩
        exact ⟨entry.value, List.mem_flatMap.mpr ⟨entry, among, mem_found_iff.mpr ⟨named, rfl⟩⟩,
          painted, rfl⟩
    refine ⟨found, ?_⟩
    simp only [found]
    exact colours_iff_of_suffix markup paint

/-- The element `<path stroke-width="2" fill="red"/>`. -/
def paintedPath : Markup :=
  .path [.spaced "stroke-width".toList "2".toList rfl rfl, .spaced "fill".toList "red".toList rfl rfl]

/-- In markup without longer names and without `=` in values, extraction finds the attributes with
the complete name. -/
theorem extract_paintedPath :
    IsQuiet .fill paintedPath ∧
      ∀ text, text ∈ (Occurrences.extract paintedPath.print .fill).texts ↔
        Colours .fill (· = PaintAttribute.fill.name) paintedPath text := by
  have quiet : IsQuiet .fill paintedPath := ⟨by decide, by decide +kernel, by decide +kernel⟩
  exact ⟨quiet, ((extract_markup paintedPath .fill).2.2 quiet).2.mpr (by decide +kernel)⟩

/-- The element `<path data-fill="red"/>`. -/
def prefixedPath : Markup := .path [.spaced "data-fill".toList "red".toList rfl rfl]

/-- The element `<path title="fill=" fill="red"/>`. -/
def titledPath : Markup :=
  .path [.spaced "title".toList "fill=".toList rfl rfl, .spaced "fill".toList "red".toList rfl rfl]

/-- **A longer name is found, and a colour is not**: the title's closing quote opens the value that
is found in its place. -/
theorem extract_misses :
    ((Occurrences.extract prefixedPath.print .fill).texts = ["fill=\"red\"".toList] ∧
        ¬ ∃ text, Colours .fill (· = PaintAttribute.fill.name) prefixedPath text) ∧
      (Occurrences.extract titledPath.print .fill).texts = ["fill=\" fill=\"".toList] ∧
        Colours .fill (· = PaintAttribute.fill.name) titledPath "fill=\"red\"".toList := by
  refine ⟨⟨by decide +kernel, ?_⟩, by decide +kernel, ?_⟩
  · rintro ⟨text, entry, member, complete, -⟩
    rcases List.mem_singleton.mp member with rfl
    exact absurd complete (by decide)
  · exact ⟨_, List.mem_cons_of_mem _ List.mem_cons_self, rfl, by decide, rfl⟩

end Document

end IconComponents
