/-
**The pieces of a text between separators.**

* `splitOn_of_free` — a text without separator is one piece;
* `splitOn_append` — a separator cuts a text into the pieces on either side;
* `not_mem_of_mem_splitOn`, `subset_of_mem_splitOn` — no piece holds the separator, or anything that
  the text does not hold;
* `splitOn_joinWith` — pieces that are joined come apart again.
-/

import IconComponents.Text.Basic

namespace IconComponents.Text

theorem splitWhere_ne_nil (separates : Char → Bool) (text : Text) :
    splitWhere separates text ≠ [] := by
  cases text with
  | nil => simp [splitWhere]
  | cons c text =>
    rw [splitWhere]
    split
    · simp
    · split <;> simp

theorem splitOn_ne_nil (separator : Char) (text : Text) : splitOn separator text ≠ [] :=
  splitWhere_ne_nil _ text

theorem splitWhere_of_free {separates : Char → Bool} {text : Text}
    (free : ∀ c ∈ text, separates c = false) : splitWhere separates text = [text] := by
  induction text with
  | nil => rfl
  | cons c text ih =>
    rw [List.forall_mem_cons] at free
    rw [splitWhere, ih free.2, free.1]
    rfl

theorem splitOn_of_free {separator : Char} {text : Text} (free : separator ∉ text) :
    splitOn separator text = [text] := by
  refine splitWhere_of_free fun c member => ?_
  rw [beq_eq_false_iff_ne]
  exact fun same => free (same ▸ member)

/-- A text is split at each separator. -/
theorem splitOn_append (separator : Char) (left right : Text) :
    splitOn separator (left ++ separator :: right) =
      splitOn separator left ++ splitOn separator right := by
  unfold splitOn
  induction left with
  | nil => simp [splitWhere]
  | cons c left ih =>
    rw [List.cons_append, splitWhere, splitWhere, ih]
    split
    · rfl
    · cases pieces : splitWhere (· == separator) left with
      | nil => exact absurd pieces (splitWhere_ne_nil _ _)
      | cons piece pieces => rfl

/-- A text without separator in front of another one belongs to the first piece. -/
theorem splitOn_append_cons {separator : Char} {left : Text} (free : separator ∉ left)
    (right : Text) : splitOn separator (left ++ separator :: right) =
      left :: splitOn separator right := by
  rw [splitOn_append, splitOn_of_free free, List.singleton_append]

theorem splitOn_cons (separator : Char) (text : Text) :
    splitOn separator (separator :: text) = [] :: splitOn separator text :=
  splitOn_append_cons List.not_mem_nil text

theorem not_mem_of_mem_splitOn {separator : Char} {text piece : Text}
    (member : piece ∈ splitOn separator text) : separator ∉ piece := by
  unfold splitOn at member
  induction text generalizing piece with
  | nil => rw [List.mem_singleton.mp member]; exact List.not_mem_nil
  | cons c text ih =>
    rw [splitWhere] at member
    split at member
    · rcases List.mem_cons.mp member with rfl | member
      · exact List.not_mem_nil
      · exact ih member
    · next other =>
      rw [beq_iff_eq] at other
      split at member
      · rw [List.mem_singleton.mp member, List.mem_singleton]
        exact fun same => other same.symm
      · next first pieces shape =>
        rcases List.mem_cons.mp member with rfl | member
        · rw [List.mem_cons, not_or]
          exact ⟨fun same => other same.symm, ih (shape ▸ List.mem_cons_self)⟩
        · exact ih (shape ▸ List.mem_cons_of_mem _ member)

theorem subset_of_mem_splitOn {separator : Char} {text piece : Text}
    (member : piece ∈ splitOn separator text) : piece ⊆ text := by
  unfold splitOn at member
  induction text generalizing piece with
  | nil => rw [List.mem_singleton.mp member]; exact List.nil_subset _
  | cons c text ih =>
    rw [splitWhere] at member
    split at member
    · rcases List.mem_cons.mp member with rfl | member
      · exact List.nil_subset _
      · exact List.subset_cons_of_subset c (ih member)
    · split at member
      · rw [List.mem_singleton.mp member]
        exact List.cons_subset_cons c (List.nil_subset _)
      · next first pieces shape =>
        rcases List.mem_cons.mp member with rfl | member
        · exact List.cons_subset_cons c (ih (shape ▸ List.mem_cons_self))
        · exact List.subset_cons_of_subset c (ih (shape ▸ List.mem_cons_of_mem _ member))

/-- What is joined with separators comes apart again. -/
theorem splitOn_joinWith {separator : Char} {pieces : List Text} (some : pieces ≠ [])
    (free : ∀ piece ∈ pieces, separator ∉ piece) :
    splitOn separator (joinWith [separator] pieces) = pieces := by
  induction pieces with
  | nil => exact absurd rfl some
  | cons piece pieces ih =>
    obtain ⟨first, others⟩ := List.forall_mem_cons.mp free
    cases pieces with
    | nil =>
      rw [joinWith, List.intercalate_singleton]
      exact splitOn_of_free first
    | cons next pieces =>
      have joined : joinWith [separator] (piece :: next :: pieces) =
          piece ++ separator :: joinWith [separator] (next :: pieces) := by
        simp [joinWith]
      rw [joined, splitOn_append_cons first, ih (List.cons_ne_nil _ _) others]

/-- Only the empty text is one empty piece. -/
theorem eq_nil_of_splitOn {separator : Char} {text : Text} (empty : splitOn separator text = [[]]) :
    text = [] := by
  cases text with
  | nil => rfl
  | cons c text =>
    unfold splitOn at empty
    rw [splitWhere] at empty
    split at empty
    · exact absurd (List.cons.inj empty).2 (splitWhere_ne_nil _ text)
    · split at empty <;> cases empty

end IconComponents.Text
