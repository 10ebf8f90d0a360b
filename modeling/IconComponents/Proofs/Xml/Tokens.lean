/-
**The tokens of a masked document.**

Behind their fronts the two documents are cut alike: into the same tags, with the values of
attributes masked. A name that the masking colour cuts off is a fault of the masked document.

* `Matches` — a token of the document and the one of the masked document;
* `tokensFrom_matches`, `tokensOf_matches` — all tokens, from a place on and of a document.
-/

import Mathlib.Data.List.Forall2
import IconComponents.Proofs.Xml.References

namespace IconComponents.Xml

open Reader

variable {mask text masked rest rest' : Text} {entities entities' : Entities} {depth : Nat}

/-! ### Steps -/

/-- What a token of a document becomes where the document is masked. -/
inductive Matches (mask : Text) : Token → Token → Prop
  | opening (name : QualifiedName) (place place' : Text) :
    Matches mask (.opening name place) (.opening name place')
  | given {written written' : WrittenAttribute} (name : written.name = written'.name)
    (apart : RefersApart written.value) (value : Aligned mask written.value written'.value) :
    Matches mask (.given written) (.given written')
  | inside : Matches mask .inside .inside
  | vacant : Matches mask .vacant .vacant
  | closing (name : QualifiedName) (place place' : Text) :
    Matches mask (.closing name place) (.closing name place')
  | aside : Matches mask .aside .aside

/-- No token that matches another one is an expansion. -/
theorem Matches.not_expansion {token token' : Token} (matched : Matches mask token token') :
    (∀ passage behind, token ≠ .expansion passage behind) ∧
      ∀ passage behind, token' ≠ .expansion passage behind := by
  cases matched <;> exact ⟨nofun, nofun⟩

/-- What a step finds in the two documents. -/
structure StepMatches (mask : Text) (found found' : List Token × Mode) : Prop where
  tokens : List.Forall₂ (Matches mask) found.1 found'.1
  mode : found.2 = found'.2

theorem stepMatches_nil {mode : Mode} : StepMatches mask ([], mode) ([], mode) := ⟨.nil, rfl⟩

theorem StepMatches.single {token token' : Token} {mode : Mode} (both : Matches mask token token') :
    StepMatches mask ([token], mode) ([token'], mode) :=
  ⟨.cons both .nil, rfl⟩

namespace Reader

/-- Only the name of an opening tag can be cut off. -/
def InTag (found : List Token × Mode) : Prop := ∃ depth, found.2 = .tag depth

/-- Opening tags start at the same places. -/
theorem tracks_opening (isMask : IsMask mask) (place place' : Text) :
    Tracks InTag (Alongside mask) (opening depth place) (opening depth place')
      fun found found' rest rest' => StepMatches mask found found' ∧ Alongside mask rest rest' := by
  unfold opening
  refine (tracks_qualifiedName isMask).bind_of (fun _ _ _ _ mark read => ?_) fun name name' =>
    tracks_of ?_
  · cases read
    exact ⟨⟨depth, rfl⟩, mark⟩
  · rintro rfl
    exact tracks_pure fun _ _ alongside => ⟨.single (.opening _ _ _), alongside⟩

/-- Closing tags end at the same places. -/
theorem tracks_closing (isMask : IsMask mask) (place place' : Text) :
    Tracks never (Alongside mask) (closing depth place) (closing depth place')
      fun found found' rest rest' => StepMatches mask found found' ∧ Alongside mask rest rest' := by
  unfold closing
  refine (tracks_qualifiedName isMask).bind_refuses (fun _ => stopsAtMark_skipSpace.bind_refuses
    fun _ => (refusesMark_expect (by decide)).bind) fun name name' => tracks_of ?_
  rintro rfl
  refine (tracks_skipSpace isMask).bind fun _ _ => tracks_of fun _ => ?_
  refine (tracks_expect isMask (by decide) (by decide)).bind fun _ _ => tracks_of fun _ => ?_
  exact tracks_pure fun _ _ aligned => ⟨.single (.closing _ _ _), Or.inl aligned⟩

/-- Places that belong together, where references are apart from there on. -/
abbrev AlongsideApart (mask text masked : Text) : Prop :=
  RefersApart text ∧ Alongside mask text masked

/-- An attribute whose document has its references apart has them apart, too. -/
theorem tracks_rawAttribute_apart (isMask : IsMask mask) :
    Tracks never (AlongsideApart mask) rawAttribute rawAttribute fun written written' rest rest' =>
      (written.1 = written'.1 ∧ RefersApart written.2.1 ∧ Aligned mask written.2.1 written'.2.1) ∧
        Aligned mask rest rest' := by
  rintro text masked ⟨apart, alongside⟩ found' succeeded
  obtain ⟨found, read, ⟨name, value⟩, rest⟩ := (tracks_rawAttribute isMask).found alongside succeeded
  have within := infix_of_rawAttribute ⟨found, read, rfl, rfl⟩
  exact Or.inl ⟨found, read, ⟨name, apart.of_infix within, value⟩, rest⟩

/-- A step within a tag goes alike in both texts. -/
theorem tracks_tagStep (isMask : IsMask mask) (c : Char) :
    Tracks never (AlongsideApart mask) (tagStep depth c) (tagStep depth c)
      fun found found' rest rest' => StepMatches mask found found' ∧ Alongside mask rest rest' := by
  have spaces : Tracks never (AlongsideApart mask) skipSpace skipSpace
      fun _ _ => AlongsideApart mask :=
    ((tracks_skipSpace isMask).keeping fun within apart => apart.of_suffix within).weaken
      fun _ _ _ _ places => ⟨places.1, places.2.2⟩
  unfold tagStep
  refine tracks_ahead.bind fun rest rest' => tracks_of fun _ => ?_
  refine tracks_ite (fun _ => tracks_pure fun _ _ places => ⟨.single .inside, places.2⟩)
    fun _ => tracks_ite (fun _ => ?_) fun _ => tracks_ite (fun _ => tracks_fail) fun _ => ?_
  · refine ((tracks_expect isMask (by decide) (by decide)).mono fun _ _ => And.right).bind
      fun _ _ => tracks_of fun _ => ?_
    exact tracks_pure fun _ _ aligned => ⟨.single .vacant, Or.inl aligned⟩
  · refine spaces.bind fun _ _ => tracks_ahead.bind fun rest rest' => tracks_of ?_
    rintro ⟨-, alongside⟩
    cases rest' with
    | nil =>
      intro text masked _ found' succeeded
      cases succeeded
    | cons next' inner' =>
      let give (written : QualifiedName × Text × Text × Text) : Reader (List Token × Mode) :=
        pure ([.given ⟨written.1, written.2.1, written.2.2.1, written.2.2.2⟩], .tag depth)
      have given : Tracks never (AlongsideApart mask) (rawAttribute >>= give)
          (rawAttribute >>= give) fun found found' rest rest' =>
            StepMatches mask found found' ∧ Alongside mask rest rest' := by
        refine (tracks_rawAttribute_apart isMask).bind fun written written' => tracks_of ?_
        rintro ⟨name, apart, value⟩
        exact tracks_pure fun _ _ aligned => ⟨.single (.given name apart value), Or.inl aligned⟩
      rcases alongside.cons with ⟨text', rfl, -⟩ | swapped
      · exact tracks_ite (fun _ => tracks_pure fun _ _ places => ⟨stepMatches_nil, places.2⟩)
          fun _ => given
      · obtain ⟨rfl, d, text', rfl, kind⟩ := swapped.head isMask
        have closed : (decide (d = '>') || decide (d = '/')) = false := by
          rw [Bool.or_eq_false_iff, decide_eq_false_iff_not, decide_eq_false_iff_not]
          constructor
          · rintro rfl
            exact absurd kind (by decide)
          · rintro rfl
            exact absurd kind (by decide)
        simp only [List.head?_cons, closed, Bool.false_eq_true, if_false]
        exact given

theorem reads_checkWords_iff {words behind rest : Text} {value : PUnit} :
    Reads (checkWords words behind) text value rest ↔
      (∀ c ∈ words, isDocumentChar c = true) ∧ rest = text := by
  constructor
  · rintro ⟨found, checked, -, rfl⟩
    exact all_of_checkWords checked
  · rintro ⟨all, rfl⟩
    rw [checkWords_of_all all]
    exact ⟨_, rfl, rfl, rfl⟩

/-- The words from a character on, up to the next tag. -/
abbrev wordsFrom (c : Char) (inner : Text) : Text := c :: inner.takeWhile (· != '<')

/-- What is read of text between tags. -/
theorem reads_words_iff {c : Char} {inner rest : Text} {tokens : List Token} :
    Reads (words entities c) inner tokens rest ↔
      (∀ d ∈ wordsFrom c inner, isDocumentChar d = true) ∧
        Text.contains (wordsFrom c inner) "]]>".toList = false ∧
        tokens = .aside :: expansions entities rest (wordsFrom c inner) ∧
        rest = inner.dropWhile (· != '<') := by
  unfold words wordsWhile
  simp only [reads_bind_iff, reads_ahead_iff, reads_checkWords_iff, reads_takeWhile_iff,
    reads_pure_iff]
  constructor
  · rintro ⟨_, _, ⟨rfl, rfl⟩, _, _, ⟨first, rfl⟩, _, _, ⟨_, _, ⟨rfl, rfl⟩, _, _, ⟨rfl, rfl⟩, _, _,
      ⟨all, rfl⟩, rfl, rfl⟩, _, _, ⟨rfl, rfl⟩, read⟩
    split at read
    · exact absurd read not_reads_fail
    · next open' =>
      obtain ⟨rfl, rfl⟩ := reads_pure_iff.mp read
      exact ⟨List.forall_mem_cons.mpr ⟨first c List.mem_cons_self, all⟩,
        Bool.not_eq_true _ ▸ open', rfl, rfl⟩
  · rintro ⟨all, open', rfl, rfl⟩
    obtain ⟨first, all⟩ := List.forall_mem_cons.mp all
    refine ⟨_, _, ⟨rfl, rfl⟩, ⟨⟩, _, ⟨by simpa using first, rfl⟩, _, _, ⟨_, _, ⟨rfl, rfl⟩, _, _,
      ⟨rfl, rfl⟩, ⟨⟩, _, ⟨all, rfl⟩, rfl, rfl⟩, _, _, ⟨rfl, rfl⟩, ?_⟩
    rw [open', if_neg Bool.false_ne_true]
    exact reads_pure_iff.mpr ⟨rfl, rfl⟩

/-- Words become words. -/
theorem words_found (isMask : IsMask mask) {c c' : Char} {inner inner' rest' : Text}
    {tokens' : List Token} (apart : RefersApart (c :: inner))
    (alongside : Alongside mask (c :: inner) (c' :: inner')) (other : c ≠ '<') (other' : c' ≠ '<')
    (read' : Reads (words entities' c') inner' tokens' rest') (sound : IsSound tokens') :
    ∃ tokens rest, Reads (words entities c) inner tokens rest ∧
      List.Forall₂ (Matches mask) tokens tokens' ∧ Alongside mask rest rest' := by
  have taken {c : Char} {inner : Text} (other : c ≠ '<') :
      (c :: inner).takeWhile (· != '<') = wordsFrom c inner ∧
        (c :: inner).dropWhile (· != '<') = inner.dropWhile (· != '<') := by
    rw [List.takeWhile_cons, List.dropWhile_cons, bne_iff_ne.mpr other]
    exact ⟨rfl, rfl⟩
  have quote : IsQuote '<' := ⟨by decide, by decide⟩
  obtain ⟨words, rest⟩ := alongside.span isMask quote.passesWords
  rw [(taken other).1, (taken other').1] at words
  rw [(taken other).2, (taken other').2] at rest
  obtain ⟨all, open', rfl, rfl⟩ := reads_words_iff.mp read'
  rw [← contains_eq isMask (.of_all (by decide) rfl) words] at open'
  refine ⟨_, _, reads_words_iff.mpr ⟨words.forall isDocumentChar_of_letter all, open', rfl, rfl⟩, ?_,
    Or.inl rest⟩
  have within : wordsFrom c inner <:+: c :: inner :=
    (List.prefix_cons_inj c).mpr (List.takeWhile_prefix _) |>.isInfix
  obtain ⟨none, none'⟩ := expansions_alongside isMask (apart.of_infix within) words
    fun error member => sound error (List.mem_cons_of_mem _ member)
  rw [none, none']
  exact .cons .aside .nil

theorem reads_contentStep_iff {c : Char} {inner rest : Text} {found : List Token × Mode}
    (other : c ≠ '<') : Reads (contentStep entities depth c) inner found rest ↔
      ∃ tokens, Reads (words entities c) inner tokens rest ∧ found = (tokens, .content depth) := by
  unfold contentStep
  simp only [reads_bind_iff, reads_ahead_iff]
  constructor
  · rintro ⟨_, _, ⟨rfl, rfl⟩, read⟩
    rw [if_pos (bne_iff_ne.mpr other)] at read
    simp only [reads_bind_iff, reads_pure_iff] at read
    obtain ⟨tokens, _, read, rfl, rfl⟩ := read
    exact ⟨tokens, read, rfl⟩
  · rintro ⟨tokens, read, rfl⟩
    refine ⟨_, _, ⟨rfl, rfl⟩, ?_⟩
    rw [if_pos (bne_iff_ne.mpr other)]
    simp only [reads_bind_iff, reads_pure_iff]
    exact ⟨tokens, _, read, rfl, rfl⟩

/-- A step at a bracket between tags goes alike in both texts. -/
theorem tracks_contentStep (isMask : IsMask mask) :
    Tracks InTag (Alongside mask) (contentStep entities depth '<') (contentStep entities' depth '<')
      fun found found' rest rest' => StepMatches mask found found' ∧ Alongside mask rest rest' := by
  have aside : Tracks InTag (Alongside mask) (pure ([.aside], .content depth))
      (pure ([.aside], .content depth))
      fun found found' rest rest' => StepMatches mask found found' ∧ Alongside mask rest rest' :=
    tracks_pure fun _ _ alongside => ⟨.single .aside, alongside⟩
  unfold contentStep
  refine tracks_ahead.bind fun rest rest' => tracks_of fun places => ?_
  refine tracks_ite (fun other => absurd other (by decide)) fun _ => ?_
  refine (tracks_aside isMask).bind fun isAside isAside' => tracks_of ?_
  rintro rfl
  refine tracks_ite (fun _ => aside) fun _ => ?_
  refine (tracks_skip isMask (by decide)).bind fun isLiteral isLiteral' => tracks_of ?_
  rintro rfl
  refine tracks_ite (fun _ => ?_) fun _ => ?_
  · exact (tracks_wordsUpTo isMask (.of_all (by decide) rfl)).bind fun _ _ => tracks_of fun _ =>
      aside.aligned
  · refine (tracks_skip isMask (by decide)).bind fun closes closes' => tracks_of ?_
    rintro rfl
    refine tracks_ite (fun _ => (tracks_closing isMask _ _).loosen) fun _ => ?_
    rw [places.isEmpty_eq isMask,
      decide_eq_decide.mpr (places.head?_eq_iff isMask (by decide : Char.isWord '!' = false)
        (by decide))]
    exact tracks_ite (fun _ => tracks_fail) fun _ => tracks_opening isMask _ _

/-- A step outside the root goes alike in both texts. -/
theorem tracks_outsideStep (isMask : IsMask mask) (c : Char) :
    Tracks never (Alongside mask) (outsideStep c) (outsideStep c)
      fun found found' rest rest' => StepMatches mask found found' ∧ Alongside mask rest rest' := by
  unfold outsideStep
  refine tracks_ahead.bind fun rest rest' => tracks_of fun _ => ?_
  refine tracks_ite (fun _ => tracks_pure fun _ _ alongside => ⟨stepMatches_nil, alongside⟩)
    fun _ => tracks_ite (fun _ => tracks_fail) fun _ => ?_
  refine (tracks_aside isMask).bind fun isAside isAside' => tracks_of ?_
  rintro rfl
  refine tracks_ite (fun _ => ?_) fun _ => tracks_fail
  exact tracks_pure fun _ _ alongside => ⟨stepMatches_nil, alongside⟩

/-- What a step of the masked document finds, a step of the document finds; else it is stuck at a
mark in an opening tag. -/
theorem step_found (isMask : IsMask mask) {c c' : Char} {inner inner' : Text} (mode : Mode)
    (apart : RefersApart (c :: inner)) (alongside : Alongside mask (c :: inner) (c' :: inner'))
    {found' : Reading (List Token × Mode) inner'}
    (succeeded : step entities' c' mode inner' = .ok found') (sound : IsSound found'.value.1) :
    (∃ found, step entities c mode inner = .ok found ∧ StepMatches mask found.value found'.value ∧
      Alongside mask found.rest found'.rest) ∨
    InTag found'.value ∧ found'.rest.head? = some '#' := by
  have words {depth : Nat} (other : c ≠ '<') (other' : c' ≠ '<')
      (succeeded : contentStep entities' depth c' inner' = .ok found') :
      ∃ found, contentStep entities depth c inner = .ok found ∧
        StepMatches mask found.value found'.value ∧ Alongside mask found.rest found'.rest := by
    obtain ⟨tokens', read', same'⟩ :=
      (reads_contentStep_iff other').mp ⟨found', succeeded, rfl, rfl⟩
    obtain ⟨tokens, rest, read, both, alongside'⟩ :=
      words_found isMask apart alongside other other' read' (by rwa [same'] at sound)
    obtain ⟨found, read, value, rfl⟩ := (reads_contentStep_iff other).mpr ⟨tokens, read, rfl⟩
    refine ⟨found, read, ?_, alongside'⟩
    rw [value, same']
    exact ⟨both, rfl⟩
  rcases alongside.cons with ⟨text', same, behind⟩ | swapped
  · obtain ⟨rfl, rfl⟩ := List.cons.inj same
    cases mode with
    | content depth =>
      by_cases opens : c = '<'
      · subst opens
        exact tracks_contentStep isMask _ _ behind.alongside _ succeeded
      · exact Or.inl (words opens opens succeeded)
    | tag depth => exact Or.inl ((tracks_tagStep isMask c).found ⟨apart.of_suffix
        (List.suffix_cons _ _), behind.alongside⟩ succeeded)
    | outside => exact Or.inl ((tracks_outsideStep isMask c).found behind.alongside succeeded)
  · obtain ⟨rfl, d, text', same, kind⟩ := swapped.head isMask
    obtain ⟨rfl, rfl⟩ := List.cons.inj same
    cases mode with
    | content depth =>
      refine Or.inl (words ?_ (by decide) succeeded)
      rintro rfl
      exact absurd kind (by decide)
    | tag depth => cases succeeded
    | outside => cases succeeded

end Reader

/-! ### Documents -/

theorem tokensFrom_nil {mode : Mode} : tokensFrom true entities mode [] = [] := by
  rw [tokensFrom]

/-- The tokens of a step come before those of what is left. -/
theorem tokensFrom_of_ok {c : Char} {inner : Text} {mode : Mode}
    {found : Reading (List Token × Mode) inner}
    (read : Reader.step entities c mode inner = .ok found) :
    tokensFrom true entities mode (c :: inner) =
      found.value.1 ++ tokensFrom true entities found.value.2 found.rest := by
  rw [tokensFrom, Bool.not_true, Bool.and_false, if_neg Bool.false_ne_true, read]

theorem tokensFrom_of_error {c : Char} {inner : Text} {mode : Mode} {error : Error}
    (failed : Reader.step entities c mode inner = .error error) :
    tokensFrom true entities mode (c :: inner) = [.fault error] := by
  rw [tokensFrom, Bool.not_true, Bool.and_false, if_neg Bool.false_ne_true, failed]

/-- Nothing in an opening tag starts with a mark. -/
theorem not_isSound_of_mark {found : List Token × Mode} {rest : Text} (inTag : Reader.InTag found)
    (mark : rest.head? = some '#') : ¬ IsSound (tokensFrom true entities found.2 rest) := by
  obtain ⟨depth, mode⟩ := inTag
  obtain ⟨inner, rfl⟩ := List.head?_eq_some_iff.mp mark
  have failed : Reader.step entities '#' (.tag depth) inner =
    .error (.here (.expectedKind "a whitespace".toList '#') ('#' :: inner)) := rfl
  rw [mode, tokensFrom_of_error failed]
  exact not_isSound_fault

theorem IsSound.of_append_left {first others : List Token} (sound : IsSound (first ++ others)) :
    IsSound first :=
  fun error member => sound error (List.mem_append_left others member)

theorem IsSound.of_append {first others : List Token} (sound : IsSound (first ++ others)) :
    IsSound others :=
  fun error member => sound error (List.mem_append_right first member)

/-- **The tokens from a place on** belong together where the masked document is read to its end. -/
theorem tokensFrom_matches (isMask : IsMask mask) {mode : Mode} (apart : RefersApart text)
    (alongside : Alongside mask text masked)
    (sound : IsSound (tokensFrom true entities' mode masked)) :
    List.Forall₂ (Matches mask) (tokensFrom true entities mode text)
      (tokensFrom true entities' mode masked) := by
  induction size : masked.length using Nat.strongRecOn generalizing text masked mode with
  | _ n ih =>
    subst size
    cases masked with
    | nil =>
      obtain rfl := alongside.nil isMask
      rw [tokensFrom_nil, tokensFrom_nil]
      exact .nil
    | cons c' inner' =>
      obtain ⟨c, inner, rfl⟩ : ∃ c inner, text = c :: inner := by
        rcases alongside.cons with ⟨inner, rfl, -⟩ | swapped
        · exact ⟨c', inner, rfl⟩
        · obtain ⟨-, c, inner, rfl, -⟩ := swapped.head isMask
          exact ⟨c, inner, rfl⟩
      cases read' : Reader.step entities' c' mode inner' with
      | error error =>
        rw [tokensFrom_of_error read'] at sound
        exact absurd sound not_isSound_fault
      | ok found' =>
        rw [tokensFrom_of_ok read'] at sound ⊢
        have steps : (∃ found, Reader.step entities c mode inner = .ok found ∧
            StepMatches mask found.value found'.value ∧ Alongside mask found.rest found'.rest) ∨ _ :=
          Reader.step_found isMask mode apart alongside read' sound.of_append_left
        rcases steps with ⟨found, read, both, alongside'⟩ | ⟨inTag, mark⟩
        · rw [tokensFrom_of_ok read, both.mode]
          exact List.rel_append both.tokens
            (ih _ (Nat.lt_succ_of_le found'.length_le)
              (apart.of_suffix (found.suffix.trans (List.suffix_cons _ _))) alongside'
              sound.of_append rfl)
        · exact absurd sound.of_append (not_isSound_of_mark inTag mark)

/-- The tokens of a text with a root. -/
theorem tokensOf_of_root {found : Reading Entities text} {inner : Text}
    {root : Reading (List Token × Mode) inner} (front : Reader.front text = .ok found)
    (opens : found.rest = '<' :: inner) (read : Reader.opening 0 found.rest inner = .ok root) :
    (tokensOf text).2 =
      root.value.1 ++ tokensFrom true found.value root.value.2 root.rest := by
  unfold tokensOf
  rw [front]
  simp only
  split
  · next inner' same =>
    obtain rfl := (List.cons.inj (opens.symm.trans same)).2
    rw [read]
  · next other => exact absurd opens (other inner)

/-- The tokens of a text without a root. -/
theorem tokensOf_of_rest {found : Reading Entities text}
    (front : Reader.front text = .ok found) (other : found.rest.head? ≠ some '<') :
    (tokensOf text).2 = tokensFrom true found.value .outside found.rest := by
  unfold tokensOf
  rw [front]
  simp only
  split
  · next inner same => exact absurd (congrArg List.head? same) other
  · rfl

/-- **The tokens of a document** belong together where the masked document is read to its end. -/
theorem tokensOf_matches (isMask : IsMask mask) (apart : RefersApart text)
    (sound : IsSound (tokensOf (maskWith mask text)).2) :
    List.Forall₂ (Matches mask) (tokensOf text).2 (tokensOf (maskWith mask text)).2 := by
  have aligned : Alongside mask text (maskWith mask text) := Or.inl ⟨rfl⟩
  cases front' : Reader.front (maskWith mask text) with
  | error error =>
    rw [tokensOf, front'] at sound
    exact absurd sound not_isSound_fault
  | ok found' =>
    obtain ⟨found, front, alongside⟩ := (Reader.tracks_front isMask).found aligned front'
    have below := apart.of_suffix found.suffix
    have bracket : Char.isWord '<' = false := by decide
    have opens := alongside.head?_eq_iff isMask bracket (by decide)
    by_cases opens' : found'.rest.head? = some '<'
    · obtain ⟨inner', same'⟩ := List.head?_eq_some_iff.mp opens'
      obtain ⟨inner, same⟩ := List.head?_eq_some_iff.mp (opens.mpr opens')
      have alongside' : Alongside mask inner inner' := by
        rw [same, same'] at alongside
        rcases alongside.cons with ⟨text', split, behind⟩ | swapped
        · obtain ⟨-, rfl⟩ := List.cons.inj split
          exact behind.alongside
        · exact absurd (swapped.mark isMask) (by decide)
      cases read' : Reader.opening 0 found'.rest inner' with
      | error error =>
        rw [tokensOf, front'] at sound
        simp only at sound
        split at sound
        · next other split =>
          obtain ⟨-, rfl⟩ := List.cons.inj (same'.symm.trans split)
          rw [read'] at sound
          exact absurd sound not_isSound_fault
        · next other => exact absurd same' (other inner')
      | ok root' =>
        rw [tokensOf_of_root front' same' read'] at sound ⊢
        rcases Reader.tracks_opening isMask found.rest found'.rest inner inner' alongside' root'
          read' with ⟨root, read, both, behind⟩ | ⟨inTag, mark⟩
        · rw [tokensOf_of_root front same read, both.mode]
          have within : root.rest <:+ found.rest := by
            rw [same]
            exact root.suffix.trans (List.suffix_cons _ _)
          exact List.rel_append both.tokens
            (tokensFrom_matches isMask (below.of_suffix within) behind sound.of_append)
        · exact absurd sound.of_append (not_isSound_of_mark inTag mark)
    · rw [tokensOf_of_rest front' opens'] at sound ⊢
      rw [tokensOf_of_rest front (mt opens.mp opens')]
      exact tokensFrom_matches isMask below alongside sound

end IconComponents.Xml
