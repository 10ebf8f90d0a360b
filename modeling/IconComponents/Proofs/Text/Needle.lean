/-
**The first place of a needle.**

* `IsFirst`, `cut?_eq_some_iff` — what is found is the first place;
* `IsFirst.of_behind` — it stays the first one whatever is written behind it;
* `contains_eq_true_iff` — a needle is found exactly if it occurs.
-/

import Mathlib.Data.List.Infix
import IconComponents.Proofs.Text.Scan

namespace IconComponents.Text

variable {needle text before after : Text}

/-- The first place of a needle in a text. -/
structure IsFirst (needle text before after : Text) : Prop where
  split : text = before ++ (needle ++ after)
  first : ∀ ahead behind, text = ahead ++ (needle ++ behind) → before.length ≤ ahead.length

theorem isFirst_front (needle after : Text) : IsFirst needle (needle ++ after) [] after :=
  ⟨rfl, fun _ _ _ => Nat.zero_le _⟩

theorem isFirst_cons_iff {c : Char} (absent : after? needle (c :: text) = none) :
    IsFirst needle (c :: text) (c :: before) after ↔ IsFirst needle text before after := by
  constructor
  · rintro ⟨split, first⟩
    refine ⟨(List.cons.inj split).2, fun ahead behind other => ?_⟩
    have least := first (c :: ahead) behind (congrArg (c :: ·) other)
    simpa using least
  · rintro ⟨rfl, first⟩
    refine ⟨rfl, fun ahead behind other => ?_⟩
    cases ahead with
    | nil =>
      have start := after?_eq_some_iff.mpr (other.trans (List.nil_append _))
      rw [absent] at start
      cases start
    | cons d ahead =>
      have least := first ahead behind (List.cons.inj other).2
      simpa using least

/-- **What is found is the first place** of the needle. -/
theorem cut?_eq_some_iff :
    cut? needle text = some (before, after) ↔ IsFirst needle text before after := by
  induction text generalizing before with
  | nil =>
    by_cases empty : needle = []
    · subst empty
      constructor
      · intro found
        cases found
        exact isFirst_front [] []
      · intro isFirst
        obtain ⟨rfl, rfl⟩ := List.append_eq_nil_iff.mp isFirst.split.symm
        rfl
    · rw [cut?, if_neg empty]
      refine iff_of_false (fun found => by cases found) fun isFirst => ?_
      have none := List.append_eq_nil_iff.mp (List.append_eq_nil_iff.mp isFirst.split.symm).2
      exact empty none.1
  | cons c text ih =>
    rw [cut?]
    cases start : after? needle (c :: text) with
    | some rest =>
      have shape := after?_eq_some_iff.mp start
      simp only [Option.some.injEq, Prod.mk.injEq]
      constructor
      · rintro ⟨rfl, rfl⟩
        exact shape ▸ isFirst_front needle rest
      · rintro ⟨split, first⟩
        obtain rfl : before = [] := List.length_eq_zero_iff.mp (Nat.le_zero.mp (first [] rest shape))
        exact ⟨rfl, List.append_cancel_left (shape.symm.trans split)⟩
    | none =>
      simp only [Option.map_eq_some_iff, Prod.mk.injEq, Prod.exists]
      constructor
      · rintro ⟨ahead, behind, found, rfl, rfl⟩
        exact (isFirst_cons_iff start).mpr (ih.mp found)
      · intro isFirst
        cases before with
        | nil =>
          have found := after?_eq_some_iff.mpr (isFirst.split.trans (List.nil_append _))
          rw [start] at found
          cases found
        | cons d before =>
          obtain rfl : c = d := (List.cons.inj isFirst.split).1
          exact ⟨before, after, ih.mpr ((isFirst_cons_iff start).mp isFirst), rfl, rfl⟩

/-- The first place of a needle is the first one whatever is behind it: an earlier place would end
before this one does. -/
theorem IsFirst.of_behind (isFirst : IsFirst needle text before after) (behind : Text) :
    IsFirst needle (before ++ (needle ++ behind)) before behind := by
  refine ⟨rfl, fun ahead rest other => ?_⟩
  by_contra earlier
  have within : ahead ++ needle <+: before ++ needle := by
    have shorter : ahead ++ needle <+: before ++ (needle ++ behind) :=
      ⟨rest, by rw [other, List.append_assoc]⟩
    have longer : before ++ needle <+: before ++ (needle ++ behind) :=
      ⟨behind, List.append_assoc _ _ _⟩
    refine List.prefix_of_prefix_length_le shorter longer ?_
    simp only [List.length_append]
    omega
  obtain ⟨gap, shape⟩ := within
  refine earlier (isFirst.first ahead (gap ++ after) ?_)
  rw [isFirst.split, ← List.append_assoc, ← shape]
  simp

/-- **A needle is found** exactly if it occurs. -/
theorem contains_eq_true_iff : contains text needle = true ↔ needle <:+: text := by
  constructor
  · intro found
    obtain ⟨⟨before, after⟩, cut⟩ := Option.isSome_iff_exists.mp found
    exact ⟨before, after, (eq_append_of_cut? cut).symm⟩
  · intro occurs
    by_contra absent
    exact not_infix_of_contains (Bool.not_eq_true _ ▸ absent) occurs

end IconComponents.Text
