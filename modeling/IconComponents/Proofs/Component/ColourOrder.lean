/-
**The order of an icon's colours.**

The colours of an icon are sorted as they are written, and a written colour ends in a quotation mark.
Two values are therefore compared with that mark behind each of them. This is the order of the values
themselves, except where one value continues another: the longer one comes first if it goes on with a
character before the quotation mark, such as a space.

* `Text.beforeQuoted_iff` — the order of quoted texts in terms of the order of texts;
* `Occurrences.values_beforeQuoted` — the values of a markup are strictly increasing in it;
* `Text.countP_of_getElem?` — the index of a member of such a list is the number of smaller members;
* `Occurrences.values_inQuotedOrder` — what each index of a default stands for, for every markup.
-/

import Mathlib.Data.List.Pairwise
import IconComponents.Proofs.Component.Instantiate

namespace IconComponents

/-! ### Quoted texts -/

namespace Text

/-- A text goes on behind another one with a character before the quotation mark. -/
def Undercuts (longer shorter : Text) : Prop :=
  ∃ c rest, longer = shorter ++ c :: rest ∧ c.toNat < '"'.toNat

/-- Whether the first text comes before the second with a quotation mark behind each. -/
def beforeQuoted (a b : Text) : Bool := before (a ++ ['"']) (b ++ ['"'])

theorem not_undercuts_nil (shorter : Text) : ¬ Undercuts [] shorter := by
  rintro ⟨c, rest, same, -⟩
  cases shorter <;> cases same

theorem undercuts_nil {c : Char} {longer : Text} :
    Undercuts (c :: longer) [] ↔ c.toNat < '"'.toNat := by
  constructor
  · rintro ⟨first, rest, same, below⟩
    obtain ⟨rfl, -⟩ := List.cons.inj same
    exact below
  · exact fun below => ⟨c, longer, rfl, below⟩

theorem undercuts_cons {x y : Char} {a b : Text} :
    Undercuts (x :: a) (y :: b) ↔ x = y ∧ Undercuts a b := by
  constructor
  · rintro ⟨c, rest, same, below⟩
    obtain ⟨rfl, rfl⟩ := List.cons.inj same
    exact ⟨rfl, c, rest, rfl, below⟩
  · rintro ⟨rfl, c, rest, rfl, below⟩
    exact ⟨c, rest, rfl, below⟩

/-- A text that is undercut comes later in plain order. -/
theorem before_of_undercuts {longer shorter : Text} (undercuts : Undercuts longer shorter) :
    before shorter longer = true := by
  obtain ⟨c, rest, rfl, -⟩ := undercuts
  induction shorter with
  | nil => rfl
  | cons x shorter ih => rwa [List.cons_append, before, if_pos rfl]

theorem before_asymm {a b : Text} (earlier : before a b = true) : before b a = false := by
  rw [Bool.eq_false_iff]
  intro later
  have around := before_trans earlier later
  rw [before_irrefl] at around
  cases around

theorem before_append_left (front a b : Text) : before (front ++ a) (front ++ b) = before a b := by
  induction front with
  | nil => rfl
  | cons c front ih => rw [List.cons_append, List.cons_append, before, if_pos rfl, ih]

/-- **Quoted texts are ordered as the texts are**, except that a text comes before one that it
undercuts. -/
theorem beforeQuoted_iff {a b : Text} (plainA : '"' ∉ a) (plainB : '"' ∉ b) :
    beforeQuoted a b = true ↔ Undercuts a b ∨ before a b = true ∧ ¬ Undercuts b a := by
  induction a generalizing b with
  | nil =>
    cases b with
    | nil => simp [beforeQuoted, before, not_undercuts_nil]
    | cons y b =>
      rw [List.mem_cons, not_or] at plainB
      have other : '"'.toNat ≠ y.toNat := fun same => plainB.1 (Char.toNat_inj.mp same)
      have quoted : beforeQuoted [] (y :: b) = decide ('"'.toNat < y.toNat) := if_neg plainB.1
      rw [quoted, decide_eq_true_eq, undercuts_nil, or_iff_right (not_undercuts_nil _),
        and_iff_right (show before [] (y :: b) = true from rfl)]
      omega
  | cons x a ih =>
    rw [List.mem_cons, not_or] at plainA
    cases b with
    | nil =>
      have quoted : beforeQuoted (x :: a) [] = decide (x.toNat < '"'.toNat) :=
        if_neg (Ne.symm plainA.1)
      rw [quoted, decide_eq_true_eq, undercuts_nil, before]
      simp
    | cons y b =>
      rw [List.mem_cons, not_or] at plainB
      have quoted : beforeQuoted (x :: a) (y :: b) =
          if x = y then beforeQuoted a b else decide (x.toNat < y.toNat) := rfl
      rw [quoted, undercuts_cons, undercuts_cons, before]
      by_cases same : x = y
      · subst same
        simpa using ih plainA.2 plainB.2
      · simp [same, Ne.symm same]

/-! ### Places in a sorted list -/

/-- **The place of a member of a sorted list** is the number of members before it in the order. -/
theorem countP_of_getElem? {sooner : Text → Text → Bool} {texts : List Text} {index : Nat}
    {text : Text} (irreflexive : ∀ a, sooner a a = false)
    (asymmetric : ∀ a b, sooner a b = true → sooner b a = false)
    (sorted : texts.Pairwise fun a b => sooner a b = true) (found : texts[index]? = some text) :
    texts.countP (sooner · text) = index := by
  induction texts generalizing index with
  | nil => cases found
  | cons first texts ih =>
    obtain ⟨least, sorted⟩ := List.pairwise_cons.mp sorted
    cases index with
    | zero =>
      obtain rfl : first = text := by simpa using found
      have none : texts.countP (sooner · first) = 0 :=
        List.countP_eq_zero.mpr fun other member => by simp [asymmetric _ _ (least other member)]
      rw [List.countP_cons, none, irreflexive]
      rfl
    | succ index =>
      rw [List.getElem?_cons_succ] at found
      rw [List.countP_cons, ih sorted found, if_pos (least text (List.mem_of_getElem? found))]

end Text

/-! ### The values of a markup -/

namespace Occurrences

open Text

variable {markup : Text} {paint : PaintAttribute}

/-- The values are those that stand in the markup and paint. -/
theorem mem_values {value : Text} :
    value ∈ (extract markup paint).values ↔
      value ∈ paint.recognise.hits markup ∧ isUnpainted value = false := by
  have injective : ∀ {a b : Text}, paint.written a = paint.written b → a = b := by
    intro a b same
    simpa [PaintAttribute.written] using same
  have written : value ∈ (extract markup paint).values ↔
      paint.written value ∈ (extract markup paint).texts := by
    rw [texts_extract]
    refine ⟨List.mem_map_of_mem, fun member => ?_⟩
    obtain ⟨other, found, same⟩ := List.mem_map.mp member
    exact injective same ▸ found
  rw [written, mem_extract]
  constructor
  · rintro ⟨other, found, painted, same⟩
    obtain rfl := injective same
    exact ⟨found, painted⟩
  · rintro ⟨found, painted⟩
    exact ⟨value, found, painted, rfl⟩

/-- No value holds a quotation mark. -/
theorem quote_not_mem_of_mem_values {value : Text}
    (member : value ∈ (extract markup paint).values) : '"' ∉ value :=
  PaintAttribute.plain_of_mem_hits (mem_values.mp member).1

/-- **The values come in the order of quoted texts.** -/
theorem values_beforeQuoted (markup : Text) (paint : PaintAttribute) :
    (extract markup paint).values.Pairwise fun a b => beforeQuoted a b = true := by
  have ascending : IsAscending (extract markup paint).texts := sortedDistinct_ascending _
  rw [texts_extract, IsAscending, List.pairwise_map] at ascending
  refine ascending.imp fun {a b} earlier => ?_
  rwa [PaintAttribute.written, PaintAttribute.written, List.append_assoc, List.append_assoc,
    before_append_left] at earlier

/-- The values are in the order of texts exactly if none of them undercuts another. -/
theorem values_ascending_iff :
    IsAscending (extract markup paint).values ↔
      ∀ first ∈ (extract markup paint).values, ∀ second ∈ (extract markup paint).values,
        ¬ Undercuts first second := by
  constructor
  · intro ascending first isFirst second isSecond undercuts
    have shorterFirst := before_of_undercuts undercuts
    have longerFirst : beforeQuoted first second = true :=
      (beforeQuoted_iff (quote_not_mem_of_mem_values isFirst)
        (quote_not_mem_of_mem_values isSecond)).mpr (Or.inl undercuts)
    obtain ⟨i, inBounds, rfl⟩ := List.getElem_of_mem isFirst
    obtain ⟨j, within, rfl⟩ := List.getElem_of_mem isSecond
    rcases Nat.lt_trichotomy i j with sooner | same | later
    · have earlier := List.pairwise_iff_getElem.mp ascending i j inBounds within sooner
      rw [before_asymm earlier] at shorterFirst
      cases shorterFirst
    · subst same
      rw [before_irrefl] at shorterFirst
      cases shorterFirst
    · have earlier := List.pairwise_iff_getElem.mp (values_beforeQuoted markup paint) j i within
        inBounds later
      rw [beforeQuoted, before_asymm longerFirst] at earlier
      cases earlier
  · intro free
    refine (values_beforeQuoted markup paint).imp_of_mem fun {a b} isA isB earlier => ?_
    exact (((beforeQuoted_iff (quote_not_mem_of_mem_values isA)
      (quote_not_mem_of_mem_values isB)).mp earlier).resolve_left (free a isA b isB)).1

/-- The colours of a markup in index order: which they are, how they are sorted, and what each
index of their default stands for. -/
structure InQuotedOrder (markup : Text) (paint : PaintAttribute) : Prop where
  members : ∀ value, value ∈ (extract markup paint).values ↔
    value ∈ paint.recognise.hits markup ∧ isUnpainted value = false
  increasing : (extract markup paint).values.Pairwise fun a b => beforeQuoted a b = true
  compared : ∀ a ∈ (extract markup paint).values, ∀ b ∈ (extract markup paint).values,
    (beforeQuoted a b = true ↔ Undercuts a b ∨ before a b = true ∧ ¬ Undercuts b a)
  ascending : IsAscending (extract markup paint).values ↔
    ∀ a ∈ (extract markup paint).values, ∀ b ∈ (extract markup paint).values, ¬ Undercuts a b
  default : (extract markup paint).isMultiple = true →
    (extract markup paint).default?.bind Default.read? =
      some (.several (extract markup paint).values)
  indexed : ∀ index value, (extract markup paint).values[index]? = some value →
    (extract markup paint).values.countP (beforeQuoted · value) = index ∧
      ColourReference.value?
        (Properties.ofOccurrences (extract markup .fill) (extract markup .stroke))
        ⟨paint, if (extract markup paint).isMultiple then some index else none⟩ = some value

/-- The default of several values reads as their list. -/
theorem read?_default_of_multiple (multiple : (extract markup paint).isMultiple = true) :
    (extract markup paint).default?.bind Default.read? =
      some (.several (extract markup paint).values) := by
  rw [isMultiple, size, texts_extract, List.length_map, decide_eq_true_eq] at multiple
  rw [default?]
  generalize (extract markup paint).values = values at multiple ⊢
  rcases values with _ | ⟨first, _ | ⟨second, values⟩⟩
  · cases multiple
  · exact absurd multiple (Nat.lt_irrefl 1)
  · exact read?_quoteAll _

/-- **The indices of the colours follow the order of the quoted values**, for each attribute of
every markup. -/
theorem values_inQuotedOrder (markup : Text) (paint : PaintAttribute) :
    InQuotedOrder markup paint where
  members _ := mem_values
  increasing := values_beforeQuoted markup paint
  compared _ isA _ isB :=
    beforeQuoted_iff (quote_not_mem_of_mem_values isA) (quote_not_mem_of_mem_values isB)
  ascending := values_ascending_iff
  default := read?_default_of_multiple
  indexed _ _ found :=
    ⟨countP_of_getElem? (fun _ => before_irrefl _) (fun _ _ => before_asymm)
      (values_beforeQuoted markup paint) found, value?_of_getElem? found⟩

/-- A paint server with a fallback colour behind it comes before the paint server alone, although
it is the greater text. -/
theorem fallback_before_server :
    let colours := extract
      "<svg><path fill=\"url(#sky)\"/><path fill=\"url(#sky) #0af\"/></svg>".toList .fill
    colours.values = ["url(#sky) #0af".toList, "url(#sky)".toList] ∧
      colours.default? = some "[\"url(#sky) #0af\",\"url(#sky)\"]".toList ∧
      before "url(#sky)".toList "url(#sky) #0af".toList = true ∧
      ¬ IsAscending colours.values := by
  intro colours
  have values : colours.values = ["url(#sky) #0af".toList, "url(#sky)".toList] := by
    decide +kernel
  refine ⟨values, by decide +kernel, by decide, fun ascending => ?_⟩
  rw [values] at ascending
  exact absurd ((List.pairwise_cons.mp ascending).1 _ (List.mem_singleton_self _)) (by decide)

end Occurrences

end IconComponents
