/-
**A text that is put between quotes as it is.**

Between double quotes a text is read back as it is if none of its characters means something there.
Otherwise it is read as something else or not at all, even where its own quotes make it the start of
a text of several lines: what is read is never longer than what it is read from, and it has one
character less for each escape.

* `IsUnescaped` — the characters that stand for themselves;
* `basic?_append` — a text of such characters is read back;
* `exists_taken_of_basic?`, `length_of_long?` — how much is read;
* `exists_break_of_long?` — a quote at the end of a line is read as it is, in its place or before;
* `isUnescaped_of_value?` — a text that is read back has only such characters.
-/

import Mathlib.Data.List.TakeWhile
import IconComponents.Toml.Reader

namespace IconComponents.Toml

/-- Whether a character stands for itself between double quotes. -/
def IsUnescaped (c : Char) : Prop := isVisible c = true ∧ c ≠ '"' ∧ c ≠ '\\'

instance (c : Char) : Decidable (IsUnescaped c) :=
  inferInstanceAs (Decidable (isVisible c = true ∧ c ≠ '"' ∧ c ≠ '\\'))

-- along the text, not over all characters there are
instance (text : Text) : Decidable (∀ c ∈ text, IsUnescaped c) :=
  List.decidableBAll IsUnescaped text

variable {text words rest behind ahead : Text} {c : Char} {depth nesting : Nat}

/-! ### Texts that are read back -/

theorem basic?_cons (unescaped : IsUnescaped c) (text : Text) :
    basic? (c :: text) = (basic? text).map fun (words, rest) => (c :: words, rest) := by
  obtain ⟨visible, noQuote, noBackslash⟩ := unescaped
  rw [basic?.eq_def]
  split
  · next empty => cases empty
  · next same => cases same; exact absurd rfl noQuote
  · next same => cases same; exact absurd rfl noBackslash
  · next same =>
    cases same
    rw [if_pos visible]

/-- **A text of characters that stand for themselves** is read up to its closing quote. -/
theorem basic?_append (unescaped : ∀ c ∈ text, IsUnescaped c) (rest : Text) :
    basic? (text ++ '"' :: rest) = some (text, rest) := by
  induction text with
  | nil => rw [List.nil_append, basic?]
  | cons c text ih =>
    obtain ⟨first, others⟩ := List.forall_mem_cons.mp unescaped
    rw [List.cons_append, basic?_cons first, ih others, Option.map_some]

/-- A quote that no two others follow opens a text on one line. -/
theorem value?_single (single : ∀ more, text ≠ '"' :: '"' :: more) :
    value? (depth + 1) nesting ('"' :: text) =
      (basic? text).map fun (words, rest) => (.text words, rest) := by
  rw [value?]
  exact fun more same => single more same

/-- Between quotes it is a value. -/
theorem value?_append (unescaped : ∀ c ∈ text, IsUnescaped c) (noQuote : rest.head? ≠ some '"') :
    value? (depth + 1) nesting ('"' :: (text ++ '"' :: rest)) = some (.text text, rest) := by
  rw [value?_single, basic?_append unescaped, Option.map_some]
  intro more same
  cases text with
  | nil =>
    cases same
    exact noQuote rfl
  | cons c text =>
    obtain ⟨rfl, -⟩ := List.cons.inj same
    exact (unescaped _ List.mem_cons_self).2.1 rfl

/-! ### How much is read -/

theorem notMem_of_hexNumber? {digits : Text} {n : Nat} (number : hexNumber? digits = some n)
    (foreign : Char.isHexDigit c = false) : c ∉ digits := by
  unfold hexNumber? at number
  split at number
  · next hex =>
    intro member
    rw [List.all_eq_true.mp hex c member] at foreign
    cases foreign
  · cases number

/-- **An escape** takes letters that hold no line end, and no quote unless it stands for one. -/
theorem exists_taken_of_escaped? (found : escaped? text = some (c, rest)) :
    ∃ taken, text = taken ++ rest ∧ taken ≠ [] ∧ '\n' ∉ taken ∧
      (taken = ['"'] ∧ c = '"' ∨ '"' ∉ taken) := by
  have coded : ∀ {letter : Char} {count : Nat} {text : Text}, letter ≠ '\n' → letter ≠ '"' →
      ((hexNumber? (text.take count)).bind charOf?).map (·, text.drop count) = some (c, rest) →
      ∃ taken, letter :: text = taken ++ rest ∧ taken ≠ [] ∧ '\n' ∉ taken ∧
        (taken = ['"'] ∧ c = '"' ∨ '"' ∉ taken) := by
    intro letter count text noBreak noQuote coded
    obtain ⟨_, number, same⟩ := Option.map_eq_some_iff.mp coded
    cases same
    obtain ⟨n, hex, -⟩ := Option.bind_eq_some_iff.mp number
    refine ⟨letter :: text.take count, ?_, List.cons_ne_nil _ _, ?_, Or.inr ?_⟩
    · rw [List.cons_append, List.take_append_drop]
    · rw [List.mem_cons, not_or]
      exact ⟨Ne.symm noBreak, notMem_of_hexNumber? hex rfl⟩
    · rw [List.mem_cons, not_or]
      exact ⟨Ne.symm noQuote, notMem_of_hexNumber? hex rfl⟩
  unfold escaped? at found
  split at found
  · split at found
    · cases found
    · exact coded (by decide) (by decide) found
  · split at found
    · cases found
    · exact coded (by decide) (by decide) found
  · next letter text _ _ =>
    obtain ⟨_, short, same⟩ := Option.map_eq_some_iff.mp found
    cases same
    refine ⟨[letter], rfl, List.cons_ne_nil _ _, ?_, ?_⟩
    · rw [List.mem_singleton]
      rintro rfl
      cases short
    · by_cases quote : letter = '"'
      · subst quote
        cases short
        exact Or.inl ⟨rfl, rfl⟩
      · exact Or.inr fun member => quote (List.mem_singleton.mp member).symm
  · cases found

/-- **How much is read between double quotes**: no line end, and more than what comes of it unless
all characters stand for themselves. -/
theorem exists_taken_of_basic? (found : basic? text = some (words, rest)) :
    ∃ taken, text = taken ++ rest ∧ '\n' ∉ taken ∧
      (taken = words ++ ['"'] ∧ (∀ c ∈ words, IsUnescaped c) ∨
        words.length + 1 < taken.length) := by
  fun_induction basic? text generalizing words rest with
  | case1 => cases found
  | case2 rest =>
    cases found
    exact ⟨['"'], rfl, by decide, Or.inl ⟨rfl, fun _ member => by cases member⟩⟩
  | case3 => cases found
  | case4 escape c tail escaped shorter ih =>
    obtain ⟨⟨others, last⟩, more, same⟩ := Option.map_eq_some_iff.mp found
    cases same
    obtain ⟨letters, rfl, some, noBreak, -⟩ := exists_taken_of_escaped? escaped
    obtain ⟨taken, rfl, noBreak', size⟩ := ih more
    refine ⟨'\\' :: (letters ++ taken), by simp, by simp [noBreak, noBreak'], Or.inr ?_⟩
    have letter := List.length_pos_iff.mpr some
    have least : others.length + 1 ≤ taken.length := by
      rcases size with ⟨rfl, -⟩ | size
      · simp
      · exact Nat.le_of_lt size
    simp only [List.length_cons, List.length_append]
    omega
  | case5 c tail noQuote noBackslash visible ih =>
    obtain ⟨⟨others, last⟩, more, same⟩ := Option.map_eq_some_iff.mp found
    cases same
    obtain ⟨taken, rfl, noBreak, size⟩ := ih more
    have unescaped : IsUnescaped c :=
      ⟨visible, fun same => noQuote same, fun same => noBackslash same⟩
    have solid : '\n' ≠ c := by rintro rfl; exact absurd visible (by decide)
    refine ⟨c :: taken, rfl, by simp [solid, noBreak], ?_⟩
    rcases size with ⟨rfl, others'⟩ | size
    · exact Or.inl ⟨rfl, List.forall_mem_cons.mpr ⟨unescaped, others'⟩⟩
    · refine Or.inr ?_
      simp only [List.length_cons]
      omega
  | case6 => cases found

/-- A text that ends in front of a line end and is read back has only characters that stand for
themselves. -/
theorem isUnescaped_of_basic? (found : basic? (text ++ '"' :: '\n' :: rest) = some (text, behind)) :
    ∀ c ∈ text, IsUnescaped c := by
  obtain ⟨taken, split, noBreak, size⟩ := exists_taken_of_basic? found
  rcases size with ⟨-, unescaped⟩ | size
  · exact unescaped
  · -- what is taken does not reach beyond the line, so it is no longer than the text and its quote
    exfalso
    have line : text ++ '"' :: '\n' :: rest = (text ++ ['"']) ++ '\n' :: rest := by simp
    rw [line] at split
    rcases List.append_eq_append_iff.mp split with ⟨more, beyond, start⟩ | ⟨more, start, -⟩
    · cases more with
      | nil =>
        rw [List.append_nil] at beyond
        rw [beyond, List.length_append, List.length_singleton] at size
        omega
      | cons d more =>
        obtain ⟨rfl, -⟩ := List.cons.inj start
        exact noBreak (beyond ▸ List.mem_append_right _ List.mem_cons_self)
    · have length := congrArg List.length start
      rw [List.length_append, List.length_append, List.length_singleton] at length
      omega

/-! ### Several lines -/

theorem exists_taken_of_lineEnd? (found : lineEnd? text = some rest) :
    ∃ taken, text = taken ++ rest ∧ taken ≠ [] ∧ '"' ∉ taken := by
  unfold lineEnd? at found
  split at found
  · cases found
    exact ⟨['\n'], rfl, by decide, by decide⟩
  · cases found
    exact ⟨['\r', '\n'], rfl, by decide, by decide⟩
  · cases found

/-- What is skipped holds no quotation mark. -/
theorem exists_taken_of_skipLines (text : Text) :
    ∃ taken, text = taken ++ skipLines text ∧ '"' ∉ taken := by
  fun_induction skipLines text with
  | case1 text ih =>
    obtain ⟨taken, same, free⟩ := ih
    exact ⟨' ' :: taken, by rw [List.cons_append, ← same], by simp [free]⟩
  | case2 text ih =>
    obtain ⟨taken, same, free⟩ := ih
    exact ⟨'\t' :: taken, by rw [List.cons_append, ← same], by simp [free]⟩
  | case3 text ih =>
    obtain ⟨taken, same, free⟩ := ih
    exact ⟨'\n' :: taken, by rw [List.cons_append, ← same], by simp [free]⟩
  | case4 text ih =>
    obtain ⟨taken, same, free⟩ := ih
    refine ⟨'\r' :: '\n' :: taken, ?_, by simp [free]⟩
    rw [List.cons_append, List.cons_append, ← same]
  | case5 text => exact ⟨[], rfl, List.not_mem_nil⟩

/-- **The closing quotes** are three, with those that belong to the text in front of them. -/
theorem eq_of_closing? (found : closing? '"' text = some (words, rest)) :
    ∃ count, text = List.replicate (count + 3) '"' ++ rest ∧ words = List.replicate count '"' := by
  simp only [closing?] at found
  split at found
  · cases found
  · next enough =>
    cases found
    have run : text.takeWhile (· == '"') =
        List.replicate (text.takeWhile (· == '"')).length '"' := by
      refine List.eq_replicate_iff.mpr ⟨rfl, fun c member => ?_⟩
      simpa using List.mem_takeWhile_imp member
    refine ⟨min (text.takeWhile (· == '"')).length 5 - 3, ?_, rfl⟩
    have taken : text.take (min (text.takeWhile (· == '"')).length 5) =
        List.replicate (min (text.takeWhile (· == '"')).length 5) '"' := by
      have front := congrArg (List.take (min (text.takeWhile (· == '"')).length 5))
        (List.takeWhile_append_dropWhile (p := (· == '"')) (l := text))
      rw [List.take_append_of_le_length (by omega)] at front
      rw [← front, run, List.take_replicate]
      simp
    rw [show min (text.takeWhile (· == '"')).length 5 - 3 + 3 =
      min (text.takeWhile (· == '"')).length 5 by omega, ← taken, List.take_append_drop]

/-- **A part of a text of several lines** takes at least as much as comes of it, and no quote
unless it stands for one. -/
theorem exists_taken_of_longPart? (found : longPart? true text = some (words, rest)) :
    ∃ taken, text = taken ++ rest ∧ words.length ≤ taken.length ∧
      ((taken = ['"'] ∨ taken = ['\\', '"']) ∧ words = ['"'] ∨ '"' ∉ taken) := by
  unfold longPart? at found
  split at found
  · cases found
  · next c text =>
    split at found
    · next backslash =>
      obtain rfl : c = '\\' := by simpa using backslash
      split at found
      · next behind ended =>
        cases found
        obtain ⟨line, split, -, free⟩ := exists_taken_of_lineEnd? ended
        obtain ⟨lines, split', free'⟩ := exists_taken_of_skipLines behind
        refine ⟨'\\' :: (text.takeWhile (fun d => d = ' ' || d = '\t') ++ line ++ lines),
          ?_, Nat.zero_le _, Or.inr ?_⟩
        · rw [List.cons_append, List.append_assoc, ← split', List.append_assoc, ← split,
            List.takeWhile_append_dropWhile]
        · have blank : '"' ∉ text.takeWhile (fun d => d = ' ' || d = '\t') := fun member => by
            simpa using List.mem_takeWhile_imp member
          simp [blank, free, free']
      · obtain ⟨⟨d, tail⟩, escaped, same⟩ := Option.map_eq_some_iff.mp found
        cases same
        obtain ⟨letters, rfl, -, -, quote⟩ := exists_taken_of_escaped? escaped
        refine ⟨'\\' :: letters, rfl, ?_, ?_⟩
        · simp
        · rcases quote with ⟨rfl, rfl⟩ | free
          · exact Or.inl ⟨Or.inr rfl, rfl⟩
          · exact Or.inr (by simp [free])
    · split at found
      · next ended =>
        cases found
        obtain ⟨line, split, some, free⟩ := exists_taken_of_lineEnd? ended
        exact ⟨line, split, List.length_pos_iff.mpr some, Or.inr free⟩
      · split at found
        · cases found
          refine ⟨[c], rfl, Nat.le_refl _, ?_⟩
          by_cases quote : c = '"'
          · subst quote
            exact Or.inl ⟨Or.inl rfl, rfl⟩
          · exact Or.inr (by simpa using Ne.symm quote)
        · cases found

/-- **How much is read of several lines**: what comes of it and three quotes at least. -/
theorem length_of_long? (found : long? '"' true text = some (words, rest)) :
    words.length + 3 + rest.length ≤ text.length := by
  fun_induction long? '"' true text generalizing words rest with
  | case1 text closed ended =>
    cases found
    obtain ⟨count, rfl, rfl⟩ := eq_of_closing? ended
    simp
  | case2 => cases found
  | case3 text _ part tail first _ ih =>
    obtain ⟨⟨others, last⟩, more, same⟩ := Option.map_eq_some_iff.mp found
    cases same
    obtain ⟨taken, rfl, size, -⟩ := exists_taken_of_longPart? first
    have bound := ih more
    simp only [List.length_append]
    omega

/-- Fewer than three quotation marks close nothing. -/
theorem closing?_eq_none (short : (text.takeWhile (· == '"')).length < 3) :
    closing? '"' text = none := by
  rw [closing?]
  exact if_pos short

/-- A line end is read as it is. -/
theorem long?_lineEnd (text : Text) :
    long? '"' true ('\n' :: text) =
      (long? '"' true text).map fun (others, rest) => ('\n' :: others, rest) := by
  rw [long?, closing?_eq_none (by simp)]
  rfl

/-- **A quote in front of an empty line** that is read through stands in what comes of it, at its
place or before. -/
theorem exists_break_of_long?
    (found : long? '"' true (ahead ++ '"' :: '\n' :: '\n' :: behind) = some (words, rest))
    (through : rest.length ≤ behind.length) :
    ∃ before after, words = before ++ '"' :: '\n' :: '\n' :: after ∧
      before.length ≤ ahead.length := by
  generalize stream : ahead ++ '"' :: '\n' :: '\n' :: behind = text at found
  fun_induction long? '"' true text generalizing ahead words rest with
  | case1 text closed ended =>
    exfalso
    cases found
    obtain ⟨count, quotes, -⟩ := eq_of_closing? ended
    rw [quotes, show ahead ++ '"' :: '\n' :: '\n' :: behind =
      (ahead ++ ['"', '\n']) ++ '\n' :: behind by simp] at stream
    rcases List.append_eq_append_iff.mp stream with ⟨more, inside, -⟩ | ⟨more, -, beyond⟩
    · have member : '\n' ∈ List.replicate (count + 3) '"' := by simp [inside]
      exact absurd (List.eq_of_mem_replicate member) (by decide)
    · rw [beyond, List.length_append, List.length_cons] at through
      omega
  | case2 => cases found
  | case3 text none part tail first _ ih =>
    obtain ⟨⟨others, last⟩, more, same⟩ := Option.map_eq_some_iff.mp found
    cases same
    obtain ⟨taken, rfl, size, quote⟩ := exists_taken_of_longPart? first
    have later : ∀ front, ahead = taken ++ front → tail = front ++ '"' :: '\n' :: '\n' :: behind →
        ∃ before after, part ++ others = before ++ '"' :: '\n' :: '\n' :: after ∧
          before.length ≤ ahead.length := by
      rintro front rfl rfl
      obtain ⟨before, after, rfl, near⟩ := ih through rfl more
      refine ⟨part ++ before, after, by simp, ?_⟩
      rw [List.length_append, List.length_append]
      omega
    rcases List.append_eq_append_iff.mp stream with ⟨front, left, right⟩ | ⟨front, left, right⟩
    · cases front with
      | nil => exact later [] (by simpa using left.symm) right.symm
      | cons d front =>
        obtain ⟨rfl, line⟩ := List.cons.inj right
        rcases quote with ⟨short, rfl⟩ | free
        · -- the part is the quote, and the two line ends are the parts behind it
          have last : front = [] := by
            rcases short with short | short
            · rw [short] at left
              have lengths := congrArg List.length left
              simp at lengths
              exact List.length_eq_zero_iff.mp (by omega)
            · rw [short] at left
              rcases ahead with _ | ⟨_, _ | ⟨_, ahead⟩⟩
              · cases left
              · exact (List.cons.inj (List.cons.inj left).2).2.symm
              · simp at left
          subst last
          obtain rfl : '\n' :: '\n' :: behind = tail := line
          rw [long?_lineEnd, long?_lineEnd, Option.map_map] at more
          obtain ⟨_, -, same⟩ := Option.map_eq_some_iff.mp more
          cases same
          exact ⟨[], _, rfl, Nat.zero_le _⟩
        · exact absurd (by simp [left]) free
    · exact later front left right

/-! ### Texts that are not read back -/

/-- A line end behind the opening quotes is left out, a quote in front of an empty line is not. -/
theorem exists_break_of_afterOpening?
    (found : afterOpening? '"' true (ahead ++ '"' :: '\n' :: '\n' :: behind) = some (words, rest))
    (through : rest.length ≤ behind.length) :
    ∃ before after, words = before ++ '"' :: '\n' :: '\n' :: after ∧
      before.length ≤ ahead.length := by
  cases ended : lineEnd? (ahead ++ '"' :: '\n' :: '\n' :: behind) with
  | none =>
    rw [afterOpening?, ended] at found
    exact exists_break_of_long? found through
  | some stream =>
    rw [afterOpening?, ended, Option.getD_some] at found
    obtain ⟨line, split, -, free⟩ := exists_taken_of_lineEnd? ended
    rcases List.append_eq_append_iff.mp split with ⟨front, left, right⟩ | ⟨front, left, right⟩
    · cases front with
      | nil =>
        rw [← List.nil_append stream, ← right, ← List.nil_append (_ :: _)] at found
        obtain ⟨before, after, same, near⟩ := exists_break_of_long? found through
        exact ⟨before, after, same, Nat.le_trans near (Nat.zero_le _)⟩
      | cons d front =>
        obtain ⟨rfl, -⟩ := List.cons.inj right
        exact absurd (by simp [left]) free
    · rw [right] at found
      obtain ⟨before, after, same, near⟩ := exists_break_of_long? found through
      refine ⟨before, after, same, Nat.le_trans near ?_⟩
      rw [left, List.length_append]
      exact Nat.le_add_left _ _

/-- A text in three quotation marks is shorter than its spelling. -/
theorem length_of_afterOpening? (found : afterOpening? '"' true text = some (words, rest)) :
    words.length + 3 + rest.length ≤ text.length := by
  have read := length_of_long? found
  cases ended : lineEnd? text with
  | none =>
    rw [ended] at read
    exact read
  | some stream =>
    rw [ended, Option.getD_some] at read
    have shorter := length_lt_of_lineEnd? ended
    omega

/-- **A text of several lines is never read back** from its own quotes in front of an empty line:
with any quote in front of an empty line, it would have one two characters before. -/
theorem afterOpening?_ne_break :
    afterOpening? '"' true (text ++ '"' :: '\n' :: '\n' :: rest) ≠
      some ('"' :: '"' :: text, behind) := by
  intro found
  have size := length_of_afterOpening? found
  simp only [List.length_append, List.length_cons] at size
  have none : ∀ count ahead tail, ahead.length = count → count ≤ text.length →
      text ++ '"' :: '\n' :: '\n' :: rest ≠ ahead ++ '"' :: '\n' :: '\n' :: tail := by
    intro count
    induction count using Nat.strong_induction_on with
    | _ count ih =>
      intro ahead tail long inside same
      have lengths := congrArg List.length same
      simp only [List.length_append, List.length_cons] at lengths
      have through : behind.length ≤ tail.length := by omega
      have read := found
      rw [same] at read
      obtain ⟨before, after, words, near⟩ := exists_break_of_afterOpening? read through
      match before, words with
      | [], words => cases words
      | [_], words =>
        obtain ⟨-, words⟩ := List.cons.inj words
        obtain ⟨-, rfl⟩ := List.cons.inj words
        rw [List.cons_append, afterOpening?, lineEnd?, Option.getD_some, List.cons_append,
          long?_lineEnd] at found
        obtain ⟨_, -, start⟩ := Option.map_eq_some_iff.mp found
        cases start
      | _ :: _ :: before, words =>
        obtain ⟨-, words⟩ := List.cons.inj words
        obtain ⟨-, rfl⟩ := List.cons.inj words
        rw [List.length_cons, List.length_cons] at near
        refine ih before.length (by omega) before (after ++ '"' :: '\n' :: '\n' :: rest) rfl
          (by simp) ?_
        simp
  exact none _ text rest rfl (Nat.le_refl _) rfl

/-- **A text that is read back between quotes at the end of a line**, in front of an empty line or
of the end, has only characters that stand for themselves. -/
theorem isUnescaped_of_value? (finish : rest = [] ∨ ∃ more, rest = '\n' :: more)
    (found : value? (depth + 1) nesting ('"' :: (text ++ '"' :: '\n' :: rest)) =
      some (.text text, behind)) : ∀ c ∈ text, IsUnescaped c := by
  by_cases several : ∃ stream, text ++ '"' :: '\n' :: rest = '"' :: '"' :: stream
  · exfalso
    obtain ⟨stream, opened⟩ := several
    rw [opened, value?] at found
    obtain ⟨⟨words, left⟩, read, same⟩ := Option.map_eq_some_iff.mp found
    cases same
    rcases text with _ | ⟨_, _ | ⟨_, text⟩⟩
    · simp at opened
    · obtain ⟨rfl, rfl⟩ : _ = '"' ∧ '\n' :: rest = stream := by simpa using opened
      rcases finish with rfl | ⟨more, rfl⟩
      · have nothing : long? '"' true [] = none := by
          rw [long?, closing?_eq_none (by decide)]
          rfl
        rw [longBasic?, afterOpening?, lineEnd?, Option.getD_some, nothing] at read
        cases read
      · rw [longBasic?, afterOpening?, lineEnd?, Option.getD_some, long?_lineEnd] at read
        obtain ⟨_, -, start⟩ := Option.map_eq_some_iff.mp read
        cases start
    · obtain ⟨rfl, rfl, rfl⟩ : _ = '"' ∧ _ = '"' ∧ text ++ '"' :: '\n' :: rest = stream := by
        simpa using opened
      rcases finish with rfl | ⟨more, rfl⟩
      · have size := length_of_afterOpening? read
        simp only [List.length_append, List.length_cons, List.length_nil] at size
        omega
      · exact afterOpening?_ne_break read
  · rw [value?_single fun more same => several ⟨more, same⟩] at found
    obtain ⟨⟨words, left⟩, read, same⟩ := Option.map_eq_some_iff.mp found
    cases same
    exact isUnescaped_of_basic? read

end IconComponents.Toml
