/-
**The order of paths.**

Paths are compared component by component, and this is a strict order in which two paths with
different components are never side by side:

* `listComesBefore_iff_lex` — the order of lists of components; `listComesBefore_trans`,
  `listComesBefore_or` — it is strict and total;
* `sort_perm`, `sort_ordered` — sorting keeps the paths and puts them in order.
-/

import IconComponents.Path
import IconComponents.Proofs.Text.Order

namespace IconComponents.Path

/-! ### Components -/

theorem Component.comesBefore_irrefl (a : Component) : a.comesBefore a = false := by
  cases a with
  | entry name => exact Text.before_irrefl name
  | root => rfl
  | current => rfl
  | parent => rfl

theorem Component.comesBefore_trans {a b c : Component} (first : a.comesBefore b = true)
    (second : b.comesBefore c = true) : a.comesBefore c = true := by
  cases a <;> cases b <;> cases c <;> simp [comesBefore, rank] at first second ⊢
  exact Text.before_trans first second

theorem Component.comesBefore_or {a b : Component} (different : a ≠ b) :
    a.comesBefore b = true ∨ b.comesBefore a = true := by
  cases a <;> cases b <;>
    first
    | exact Or.inl rfl
    | exact Or.inr rfl
    | exact absurd rfl different
    | exact Text.before_or_before fun same => different (congrArg entry same)

instance : IsStrictTotalOrder Component fun a b => a.comesBefore b = true where
  irrefl a := by rw [Component.comesBefore_irrefl]; exact Bool.false_ne_true
  trans _ _ _ := Component.comesBefore_trans
  trichotomous a b notFirst notSecond := by
    by_contra different
    exact (Component.comesBefore_or different).elim notFirst notSecond

/-! ### Lists of components -/

/-- `listComesBefore` is the lexicographic order of lists of components. -/
theorem listComesBefore_iff_lex {a b : List Component} :
    listComesBefore a b = true ↔ List.Lex (fun a b => a.comesBefore b = true) a b := by
  fun_induction listComesBefore a b with
  | case1 a => simp
  | case2 c b => simp
  | case3 c a b ih => rw [ih, List.lex_cons_iff]
  | case4 c a d b different =>
    rw [List.cons_lex_cons_iff, or_iff_left fun same => different same.1]

instance : IsStrictTotalOrder (List Component) fun a b => listComesBefore a b = true := by
  simp only [listComesBefore_iff_lex]
  exact { isStrictWeakOrder_of_isOrderConnected with }

/-- The order of paths is transitive. -/
theorem listComesBefore_trans {a b c : List Component} (first : listComesBefore a b = true)
    (second : listComesBefore b c = true) : listComesBefore a c = true :=
  trans_of (fun a b => listComesBefore a b = true) first second

theorem listComesBefore_or {a b : List Component} (different : a ≠ b) :
    listComesBefore a b = true ∨ listComesBefore b a = true :=
  (trichotomous_of (fun a b => listComesBefore a b = true) a b).imp_right
    fun rest => rest.resolve_left different

/-! ### Sorting -/

/-- No path comes before one that stands ahead of it. -/
def IsOrdered (paths : List Text) : Prop := paths.Pairwise fun a b => comesBefore b a = false

theorem comesBefore_asymm {a b : Text} (first : comesBefore a b = true) :
    comesBefore b a = false := by
  rw [← Bool.not_eq_true]
  exact asymm_of (fun a b => listComesBefore a b = true) first

/-- What does not come before a path does not come before those that do not come after it. -/
theorem comesBefore_eq_false_trans {a b c : Text} (first : comesBefore b a = false)
    (second : comesBefore c b = false) : comesBefore c a = false := by
  rw [← Bool.not_eq_true]
  intro less
  by_cases same : components a = components b
  · rw [comesBefore, ← same] at second
    rw [comesBefore, second] at less
    cases less
  · rcases listComesBefore_or same with ahead | behind
    · have less := listComesBefore_trans less ahead
      rw [comesBefore, less] at second
      cases second
    · rw [comesBefore, behind] at first
      cases first

theorem insertSorted_perm (path : Text) (sorted : List Text) :
    (insertSorted path sorted).Perm (path :: sorted) := by
  induction sorted with
  | nil => exact List.Perm.refl _
  | cons other sorted ih =>
    rw [insertSorted]
    split
    · exact (ih.cons other).trans (List.Perm.swap path other sorted)
    · exact List.Perm.refl _

theorem IsOrdered.insertSorted {path : Text} {sorted : List Text} (ordered : IsOrdered sorted) :
    IsOrdered (insertSorted path sorted) := by
  induction sorted with
  | nil => exact List.pairwise_singleton _ _
  | cons other sorted ih =>
    obtain ⟨least, rest⟩ := List.pairwise_cons.mp ordered
    rw [Path.insertSorted]
    split
    · next ahead =>
      refine List.pairwise_cons.mpr ⟨fun later member => ?_, ih rest⟩
      rcases List.mem_cons.mp ((insertSorted_perm path sorted).mem_iff.mp member) with rfl | member
      · exact comesBefore_asymm ahead
      · exact least later member
    · next behind =>
      rw [Bool.not_eq_true] at behind
      refine List.pairwise_cons.mpr ⟨fun later member => ?_, ordered⟩
      rcases List.mem_cons.mp member with rfl | member
      · exact behind
      · exact comesBefore_eq_false_trans behind (least later member)

/-- **Sorting keeps the paths.** -/
theorem sort_perm (paths : List Text) : (sort paths).Perm paths := by
  induction paths with
  | nil => exact List.Perm.refl _
  | cons path paths ih => exact (insertSorted_perm path _).trans (ih.cons path)

/-- **Sorted paths are in order.** -/
theorem sort_ordered (paths : List Text) : IsOrdered (sort paths) := by
  induction paths with
  | nil => exact List.Pairwise.nil
  | cons path paths ih => exact ih.insertSorted

end IconComponents.Path
