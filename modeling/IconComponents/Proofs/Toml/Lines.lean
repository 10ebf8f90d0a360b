/-
**Documents line by line.**

A document is read one line after the other: a line that says nothing leaves the document as it is,
and a line with a setting adds its node. A value that is there stays, whatever follows, so a setting
is read back from a document exactly if it is read back from its own line.

* `readOn?` — the document that a text makes of a document;
* `readOn?_silent` — lines that say nothing;
* `readOn?_quoted` — a line with a text between quotes that is read back;
* `exists_value_of_readOn?` — a line with any text between quotes.
-/

import IconComponents.Proofs.Toml.Document
import IconComponents.Proofs.Toml.Quoted

namespace IconComponents.Toml

variable {document final : Document} {value : Value} {name words text rest behind : Text}
  {statements : List Statement}

/-! ### Reading on -/

/-- The document that a text makes of a document, with its lines at the top. -/
def readOn? (document : Document) (text : Text) : Option Document :=
  (statements? text).bind fun statements => documentOf? statements [] document

theorem read?_eq (text : Text) : read? text = readOn? [] (dropMark text) := rfl

theorem readOn?_nil (document : Document) : readOn? document [] = some document := by
  rw [readOn?, statements?]
  rfl

/-- A line is read by its statement, and then the others are. -/
theorem readOn?_of_statement? {statement : Statement} (nonempty : text ≠ [])
    (found : statement? text = some (statement, behind))
    (ended : lineEnd? (skipComment (skip behind)) = some rest) :
    readOn? document text =
      (statements? rest).bind fun others => documentOf? (statement :: others) [] document := by
  rw [readOn?, statements?_next found nonempty ended, Option.bind_map]
  rfl

/-- The first statement of a text that is read. -/
theorem exists_first_of_statements? (nonempty : text ≠ [])
    (read : statements? text = some statements) :
    ∃ statement behind others, statement? text = some (statement, behind) ∧
      statements = statement :: others := by
  rw [statements?, if_neg (by simpa using nonempty)] at read
  split at read
  · cases read
  · next found =>
    split at read
    · cases read
      exact ⟨_, _, _, found, rfl⟩
    · split at read
      · cases read
      · obtain ⟨others, -, rfl⟩ := Option.map_eq_some_iff.mp read
        exact ⟨_, _, _, found, rfl⟩

/-! ### Lines that say nothing -/

/-- A line that says nothing: it is empty or a comment. -/
def IsSilent (line : Text) : Prop := line = [] ∨ ∃ words, line = '#' :: words ∧ words.all isVisible

theorem isSilent_iff (line : Text) :
    IsSilent line ↔ line = [] ∨ line.head? = some '#' ∧ line.tail.all isVisible := by
  cases line with
  | nil => exact iff_of_true (Or.inl rfl) (Or.inl rfl)
  | cons c line => simp [IsSilent]

instance (line : Text) : Decidable (IsSilent line) := decidable_of_iff' _ (isSilent_iff line)

/-- A silent line is passed. -/
theorem readOn?_line {line : Text} (silent : IsSilent line) (rest : Text) :
    readOn? document (line ++ '\n' :: rest) = readOn? document rest := by
  rcases silent with rfl | ⟨words, rfl, visible⟩
  · have empty : statement? ('\n' :: rest) = some (.blank, '\n' :: rest) := rfl
    exact readOn?_of_statement? (List.cons_ne_nil _ _) empty rfl
  · have comment : statement? ('#' :: (words ++ '\n' :: rest)) =
      some (.blank, '#' :: (words ++ '\n' :: rest)) := rfl
    refine readOn?_of_statement? (List.cons_ne_nil _ _) comment ?_
    have behind : (words ++ '\n' :: rest).dropWhile isVisible = '\n' :: rest := by
      rw [List.dropWhile_append_of_pos (List.all_eq_true.mp visible)]
      rfl
    rw [show skip ('#' :: (words ++ '\n' :: rest)) = '#' :: (words ++ '\n' :: rest) from rfl,
      skipComment, behind, lineEnd?]

/-- **Lines that say nothing** leave the document as it is. -/
theorem readOn?_silent {lines : List Text} (silent : ∀ line ∈ lines, IsSilent line) (rest : Text) :
    readOn? document ((lines.flatMap fun line => line ++ ['\n']) ++ rest) =
      readOn? document rest := by
  induction lines with
  | nil => rfl
  | cons line lines ih =>
    obtain ⟨first, others⟩ := List.forall_mem_cons.mp silent
    rw [List.flatMap_cons, List.append_assoc, List.append_assoc, List.singleton_append,
      readOn?_line first, ih others]

/-! ### Lines with a setting -/

/-- Whether a text is a key without quotes. -/
def IsBareKey (name : Text) : Prop := name ≠ [] ∧ ∀ c ∈ name, isBare c = true

instance (name : Text) : Decidable (IsBareKey name) :=
  @instDecidableAnd _ _ _ (List.decidableBAll (fun c => isBare c = true) name)

/-- A key and the text of its value. -/
def assignment (name text : Text) : Text := name ++ ' ' :: '=' :: ' ' :: text

theorem isBare_ne {c d : Char} (bare : isBare c = true) (foreign : isBare d = false) : c ≠ d := by
  rintro rfl
  rw [bare] at foreign
  cases foreign

theorem skip_of_isBare {c : Char} (bare : isBare c = true) (text : Text) :
    skip (c :: text) = c :: text := by
  have noSpace := isBare_ne (d := ' ') bare rfl
  have noTab := isBare_ne (d := '\t') bare rfl
  simp [skip, noSpace, noTab]

theorem simpleKey?_assignment (bare : IsBareKey name) (text : Text) :
    simpleKey? (assignment name text) = some (name, ' ' :: '=' :: ' ' :: text) := by
  obtain ⟨nonempty, bare⟩ := bare
  obtain ⟨c, others, rfl⟩ := List.exists_cons_of_ne_nil nonempty
  have first := bare c List.mem_cons_self
  have taken : (assignment (c :: others) text).takeWhile isBare = c :: others := by
    rw [assignment, List.takeWhile_append_of_pos bare]
    simp [show isBare ' ' = false from rfl]
  have left : (assignment (c :: others) text).dropWhile isBare = ' ' :: '=' :: ' ' :: text := by
    rw [assignment, List.dropWhile_append_of_pos bare]
    rfl
  unfold simpleKey?
  split
  · next same => exact absurd (List.cons.inj same).1 (isBare_ne first rfl)
  · next same => exact absurd (List.cons.inj same).1 (isBare_ne first rfl)
  · rw [taken, left]

/-- The key of an assignment is its name. -/
theorem key?_assignment (bare : IsBareKey name) (text : Text) :
    key? (assignment name text) = some ([name], '=' :: ' ' :: text) := by
  have start : skip (assignment name text) = assignment name text := by
    obtain ⟨c, others, rfl⟩ := List.exists_cons_of_ne_nil bare.1
    exact skip_of_isBare (bare.2 c List.mem_cons_self) _
  have parts : parts? (assignment name text) = some ([name], '=' :: ' ' :: text) := by
    rw [parts?]
    split
    · next none =>
      rw [start, simpleKey?_assignment bare] at none
      cases none
    · next found =>
      rw [start, simpleKey?_assignment bare] at found
      cases found
      rfl
  rw [key?, parts]
  rfl

/-- The statement of a line with a setting. -/
theorem statement?_assignment (bare : IsBareKey name) (solid : skip text = text) :
    statement? (assignment name text) =
      (value? (assignment name text).length nestingLimit text).map fun (value, rest) =>
        (.define [name] value, rest) := by
  obtain ⟨c, others, rfl⟩ := List.exists_cons_of_ne_nil bare.1
  have first := bare.2 c List.mem_cons_self
  have start : skip (assignment (c :: others) text) = assignment (c :: others) text :=
    skip_of_isBare first _
  unfold statement?
  rw [start]
  split
  · next same => cases same
  · next same => exact absurd (List.cons.inj same).1 (isBare_ne first rfl)
  · next same => exact absurd (List.cons.inj same).1 (isBare_ne first rfl)
  · next same => exact absurd (List.cons.inj same).1 (isBare_ne first rfl)
  · next same => exact absurd (List.cons.inj same).1 (isBare_ne first rfl)
  · next same => exact absurd (List.cons.inj same).1 (isBare_ne first rfl)
  · rw [key?_assignment bare]
    exact congrArg (fun text => (value? _ nestingLimit text).map _) solid

theorem assignment_ne_nil : assignment name text ≠ [] :=
  List.append_ne_nil_of_right_ne_nil _ (List.cons_ne_nil _ _)

theorem exists_length_assignment (name text : Text) :
    ∃ depth, (assignment name text).length = depth + 1 :=
  Nat.exists_eq_succ_of_ne_zero (List.length_eq_zero_iff.not.mpr assignment_ne_nil)

/-- A new setting at the top is the next node. -/
theorem define?_of_fresh (fresh : document.find? [.key name] = none) (value : Value) :
    document.define? [] [name] value = some (document ++ [([.key name], .value value)]) := by
  simp [Document.define?, Document.descend?, fresh]

/-- **A line with a setting** adds its node. -/
theorem readOn?_assignment (bare : IsBareKey name) (solid : skip text = text)
    (fresh : document.find? [.key name] = none)
    (read : value? (assignment name text).length nestingLimit text = some (value, '\n' :: rest)) :
    readOn? document (assignment name text) =
      readOn? (document ++ [([.key name], .value value)]) rest := by
  have found : statement? (assignment name text) = some (.define [name] value, '\n' :: rest) := by
    rw [statement?_assignment bare solid, read, Option.map_some]
  rw [readOn?_of_statement? assignment_ne_nil found rfl]
  refine Option.bind_congr fun others _ => ?_
  rw [documentOf?, define?_of_fresh fresh, Option.bind_some]

/-- A text between quotes, at the end of a line. -/
def quotedLine (words rest : Text) : Text := '"' :: (words ++ '"' :: '\n' :: rest)

theorem skip_quotedLine : skip (quotedLine words rest) = quotedLine words rest := rfl

/-- A line with a text between quotes adds the text, if its characters stand for themselves. -/
theorem readOn?_quoted (bare : IsBareKey name) (fresh : document.find? [.key name] = none)
    (unescaped : ∀ c ∈ words, IsUnescaped c) (rest : Text) :
    readOn? document (assignment name (quotedLine words rest)) =
      readOn? (document ++ [([.key name], .value (.text words))]) rest := by
  refine readOn?_assignment bare skip_quotedLine fresh ?_
  obtain ⟨depth, length⟩ := exists_length_assignment name (quotedLine words rest)
  rw [length]
  exact value?_append unescaped (by simp)

/-- A line with a no adds it. -/
theorem readOn?_false (bare : IsBareKey name) (fresh : document.find? [.key name] = none)
    (rest : Text) :
    readOn? document (assignment name ("false".toList ++ '\n' :: rest)) =
      readOn? (document ++ [([.key name], .value (.flag false))]) rest := by
  refine readOn?_assignment bare rfl fresh ?_
  obtain ⟨depth, length⟩ := exists_length_assignment name ("false".toList ++ '\n' :: rest)
  rw [length]
  rfl

/-- **A line with a text between quotes** gives some value, in front of an empty line or of the end
the text itself only if its characters stand for themselves. -/
theorem exists_value_of_readOn? (bare : IsBareKey name) (fresh : document.find? [.key name] = none)
    (finish : rest = [] ∨ ∃ more, rest = '\n' :: more)
    (read : readOn? document (assignment name (quotedLine words rest)) = some final) :
    ∃ value, final.find? [.key name] = some (.value value) ∧
      (value = .text words → ∀ c ∈ words, IsUnescaped c) := by
  obtain ⟨statements, lines, made⟩ := Option.bind_eq_some_iff.mp read
  obtain ⟨statement, behind, others, found, rfl⟩ :=
    exists_first_of_statements? assignment_ne_nil lines
  rw [statement?_assignment bare skip_quotedLine] at found
  obtain ⟨⟨value, left⟩, valued, same⟩ := Option.map_eq_some_iff.mp found
  cases same
  rw [documentOf?, define?_of_fresh fresh, Option.bind_some] at made
  refine ⟨value, Document.find?_of_documentOf? (Document.find?_append_single fresh) made, ?_⟩
  rintro rfl
  obtain ⟨depth, length⟩ := exists_length_assignment name (quotedLine words rest)
  rw [length] at valued
  exact isUnescaped_of_value? finish valued

end IconComponents.Toml
