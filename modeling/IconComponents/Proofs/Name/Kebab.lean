/-
**The words of a name in small letters.**

A name in small letters with hyphens is the list of its words, since no word is empty and none holds
a hyphen. So the names that start with the words of another one can be told from their texts:

* `kebabWords` — the words, in small letters;
* `spelled_append_eq_iff` — when two lists of words, each followed by a text, read alike;
* `map_lower_cutWords_append` — what stands before two texts that start alike is cut alike.
-/

import IconComponents.Proofs.Name.Words

namespace IconComponents.Name

variable {text word : Text} {list others : List Text} {c : Char}

/-! ### Words -/

/-- The words of a name in small letters, after the name was spelled. -/
def kebabWords (spell : Text → Text) (name : Text) : List Text :=
  (wordsBy spell name).map Text.lower

/-- A letter or digit in small letters is no hyphen. -/
theorem toLower_ne_hyphen (solid : c.isAlphanum = true) : c.toLower ≠ '-' :=
  Text.of_isAlphanum (P := fun c => c.toLower ≠ '-') (by decide +kernel) solid

/-- **A word of a name can be told from the hyphen behind it.** -/
theorem apart_of_mem_kebabWords {spell : Text → Text} {name : Text}
    (member : word ∈ kebabWords spell name) :
    word ≠ [] ∧ '-' ∉ word := by
  obtain ⟨source, found, rfl⟩ := List.mem_map.mp member
  have isWord := isWord_of_mem_cutWords found
  refine ⟨by simpa [Text.lower] using isWord.some, fun hyphen => ?_⟩
  obtain ⟨c, inside, same⟩ := List.mem_map.mp hyphen
  exact toLower_ne_hyphen (isWord.solid c inside) same

/-! ### Words behind one another -/

/-- Words, each with a hyphen behind it. -/
def spelled (words : List Text) : Text := words.flatMap (· ++ ['-'])

theorem spelled_cons (word : Text) (list : List Text) :
    spelled (word :: list) = word ++ '-' :: spelled list := by
  simp [spelled]

theorem joinWith_append_hyphen (some : list ≠ []) :
    Text.joinWith ['-'] list ++ ['-'] = spelled list := by
  obtain ⟨first, list, rfl⟩ := List.exists_cons_of_ne_nil some
  induction list generalizing first with
  | nil => simp [Text.joinWith, spelled]
  | cons next list ih =>
    have later := ih next (List.cons_ne_nil _ _)
    rw [spelled_cons, ← later]
    simp [Text.joinWith, List.intercalate_cons_cons]

/-- **When words and a text behind them read alike**: one list of words starts with the other, and
the text behind the shorter one spells out the rest. -/
theorem spelled_append_eq_iff (apart : ∀ word ∈ list, '-' ∉ word)
    (apart' : ∀ word ∈ others, '-' ∉ word) {id id' : Text} :
    spelled list ++ id = spelled others ++ id' ↔
      (∃ more, others = list ++ more ∧ id = spelled more ++ id') ∨
        ∃ more, list = others ++ more ∧ id' = spelled more ++ id := by
  constructor
  · intro same
    induction list generalizing others with
    | nil => exact Or.inl ⟨others, rfl, by simpa [spelled] using same⟩
    | cons word list ih =>
      cases others with
      | nil => exact Or.inr ⟨word :: list, rfl, by simpa [spelled] using same.symm⟩
      | cons other others =>
        rw [List.forall_mem_cons] at apart apart'
        rw [spelled_cons, spelled_cons, List.append_assoc, List.append_assoc, List.cons_append,
          List.cons_append] at same
        obtain ⟨rfl, behind⟩ := Text.append_cons_inj apart.1 apart'.1 same
        rcases ih apart.2 apart'.2 behind with ⟨more, rfl, shape⟩ | ⟨more, rfl, shape⟩
        · exact Or.inl ⟨more, rfl, shape⟩
        · exact Or.inr ⟨more, rfl, shape⟩
  · rintro (⟨more, rfl, rfl⟩ | ⟨more, rfl, rfl⟩) <;> simp [spelled]

/-! ### Names that are cut alike -/

theorem map_lower_extendFirst (c : Char) (words : List Text) :
    (extendFirst c words).map Text.lower = extendFirst c.toLower (words.map Text.lower) := by
  cases words <;> rfl

/-- **What stands before two texts is cut alike** if they start with the same character: only that
one decides whether a letter or digit joins the word behind it. -/
theorem map_lower_cutWords_append {first : Char} {text other : Text}
    (same : (cutWords (first :: text)).map Text.lower = (cutWords (first :: other)).map Text.lower)
    (ahead : Text) :
    (cutWords (ahead ++ first :: text)).map Text.lower =
      (cutWords (ahead ++ first :: other)).map Text.lower := by
  induction ahead with
  | nil => exact same
  | cons c ahead ih =>
    by_cases solid : c.isAlphanum = true
    · obtain ⟨next, behind, behind', shape, shape'⟩ : ∃ next behind behind',
          ahead ++ first :: text = next :: behind ∧ ahead ++ first :: other = next :: behind' := by
        cases ahead with
        | nil => exact ⟨first, text, other, rfl, rfl⟩
        | cons next ahead => exact ⟨next, _, _, rfl, rfl⟩
      rw [List.cons_append, List.cons_append]
      rw [shape, shape'] at ih ⊢
      rw [cutWords_cons_cons solid, cutWords_cons_cons solid]
      split
      · rw [map_lower_extendFirst, map_lower_extendFirst, ih]
      · rw [List.map_cons, List.map_cons, ih]
    · rw [List.cons_append, List.cons_append, cutWords_cons_of_not_alphanum solid,
        cutWords_cons_of_not_alphanum solid, ih]

end IconComponents.Name
