/-
**The order of texts.**

`Text.before` is the lexicographic order, so `Text.sortedDistinct` is the one strictly ascending list
of the texts it is given:

* `before_iff_lt` — the order; `before_trans`, `before_irrefl`, `before_or_before` — it is strict and
  total;
* `sortedDistinct_ascending` — every member comes before those behind it, so none is repeated;
* `mem_sortedDistinct` — nothing is lost and nothing is added.
-/

import Mathlib.Data.Char
import Mathlib.Data.List.Lex
import IconComponents.Text.Basic

namespace IconComponents.Text

/-! ### A strict total order -/

/-- `before` is the lexicographic order of lists of characters. -/
theorem before_iff_lt {a b : Text} : before a b = true ↔ a < b := by
  fun_induction before a b with
  | case1 a => simp
  | case2 c b => simp
  | case3 c a b ih => simp [ih]
  | case4 c a d b different =>
    rw [decide_eq_true_iff, List.cons_lt_cons_iff, or_iff_left fun same => different same.1]
    rfl

theorem before_irrefl (a : Text) : before a a = false := by
  rw [← Bool.not_eq_true, before_iff_lt]
  exact lt_irrefl a

theorem before_trans {a b c : Text} (first : before a b = true) (second : before b c = true) :
    before a c = true :=
  before_iff_lt.mpr ((before_iff_lt.mp first).trans (before_iff_lt.mp second))

/-- Of two different texts one comes before the other. -/
theorem before_or_before {a b : Text} (different : a ≠ b) :
    before a b = true ∨ before b a = true :=
  (lt_or_gt_of_ne different).imp before_iff_lt.mpr before_iff_lt.mpr

/-! ### Sorting without repetition -/

/-- Every text of a list comes before all texts behind it. -/
def IsAscending (texts : List Text) : Prop := texts.Pairwise fun a b => before a b = true

theorem mem_insertSorted {text other : Text} {sorted : List Text} :
    other ∈ insertSorted text sorted ↔ other = text ∨ other ∈ sorted := by
  induction sorted with
  | nil => simp [insertSorted]
  | cons first sorted ih =>
    rw [insertSorted]
    by_cases same : text = first
    · subst same
      simp
    · rw [if_neg same]
      by_cases earlier : before text first = true
      · rw [if_pos earlier, List.mem_cons]
      · rw [if_neg earlier, List.mem_cons, ih, List.mem_cons]
        exact or_left_comm

/-- Inserting keeps ascending texts ascending. -/
theorem IsAscending.insertSorted {text : Text} {sorted : List Text}
    (ascending : IsAscending sorted) : IsAscending (insertSorted text sorted) := by
  induction sorted with
  | nil => exact List.pairwise_singleton _ _
  | cons first sorted ih =>
    obtain ⟨least, rest⟩ := List.pairwise_cons.mp ascending
    rw [Text.insertSorted]
    by_cases same : text = first
    · rw [if_pos same]
      exact ascending
    · rw [if_neg same]
      by_cases earlier : before text first = true
      · rw [if_pos earlier]
        refine List.pairwise_cons.mpr ⟨fun other member => ?_, ascending⟩
        rcases List.mem_cons.mp member with rfl | member
        · exact earlier
        · exact before_trans earlier (least other member)
      · rw [if_neg earlier]
        refine List.pairwise_cons.mpr ⟨fun other member => ?_, ih rest⟩
        rcases mem_insertSorted.mp member with rfl | member
        · exact (before_or_before same).resolve_left earlier
        · exact least other member

/-- **A sorted list is strictly ascending.** -/
theorem sortedDistinct_ascending (texts : List Text) : IsAscending (sortedDistinct texts) := by
  induction texts with
  | nil => exact List.Pairwise.nil
  | cons text texts ih => exact ih.insertSorted

/-- **Sorting keeps exactly the texts it is given.** -/
theorem mem_sortedDistinct {text : Text} {texts : List Text} :
    text ∈ sortedDistinct texts ↔ text ∈ texts := by
  induction texts with
  | nil => rfl
  | cons first texts ih =>
    rw [List.mem_cons, ← ih]
    exact mem_insertSorted

theorem IsAscending.nodup {texts : List Text} (ascending : IsAscending texts) : texts.Nodup := by
  refine List.Pairwise.imp (fun {a b} earlier same => ?_) ascending
  rw [same, before_irrefl] at earlier
  cases earlier

end IconComponents.Text
