/-
**Styles in which the word stands alone.**

A style is read by other rules than those that tell where a word ends. The masking colour is read in
place of the word, wherever the letters of the word stand apart from what could go on with them: no
identifier, number or number sign runs into them, and they are not the name of a declaration. Then
both styles are read step by step alongside.

* `StandsAlone` — the word stands alone wherever its letters are;
* `Tracks` — a place of the style and the one of the masked style;
* `Tracks.next` — the next characters, or the word;
* `Tracks.run`, `Tracks.skip`, `Tracks.behind` — runs of characters, and what is behind a mark.
-/

import IconComponents.Proofs.Markup.Reading
import IconComponents.Svg.Declaration

namespace IconComponents.Svg

variable {style mask text masked before rest rest' word : Text} {c : Char} {p : Char → Bool}

/-- Whether a character in front of the word goes on with it. -/
def joinsAhead (c : Char) : Bool := Char.isWord c || isIdentifierPart c || c = '#' || c = '.'

/-- Whether a character behind the word goes on with it. -/
def joinsBehind (c : Char) : Bool := Char.isWord c || isIdentifierPart c || c = '('

/-- **The word stands alone** in a style, wherever its letters are. -/
structure StandsAlone (style : Text) : Prop where
  ahead : ∀ before c word after, style = before ++ c :: (word ++ after) →
    isCurrentColor word = true → joinsAhead c = false
  behind : ∀ before word c after, style = before ++ (word ++ c :: after) →
    isCurrentColor word = true → joinsBehind c = false
  unnamed : ∀ before word after, style = before ++ (word ++ after) →
    isCurrentColor word = true → ∀ rest, skipComments? after ≠ some (':' :: rest)

theorem standsAlone_nil : StandsAlone [] := by
  have absent {before word after : Text} (split : [] = before ++ (word ++ after))
      (named : isCurrentColor word = true) : False := by
    obtain ⟨-, split⟩ := List.nil_eq_append_iff.mp split
    obtain ⟨rfl, -⟩ := List.append_eq_nil_iff.mp split
    exact absurd named (by decide)
  refine ⟨fun before c word after split => ?_, fun before word c after split named => ?_,
    fun before word after split named => ?_⟩
  · cases List.append_eq_nil_iff.mp split.symm |>.2
  · exact (absent split named).elim
  · exact (absent split named).elim

/-- No letters of one word stand in front of a place and behind it. -/
def Parts (before text : Text) : Prop :=
  ∀ ahead first second behind, before = ahead ++ first → text = second ++ behind →
    isCurrentColor (first ++ second) = true → first = [] ∨ second = []

/-- A place of a style, and the one of the masked style. -/
structure Tracks (style mask text masked : Text) : Prop where
  front : ∃ before, style = before ++ text ∧ Parts before text
  aligned : Aligned mask text masked

/-- The beginnings belong together. -/
theorem tracks_self : Tracks style mask style (maskWith mask style) :=
  ⟨⟨[], rfl, fun _ _ _ _ split _ _ => Or.inl (List.nil_eq_append_iff.mp split).2⟩, ⟨rfl⟩⟩

/-- The ends belong together. -/
theorem tracks_nil : Tracks style mask [] [] :=
  ⟨⟨style, (List.append_nil _).symm, fun _ _ _ _ _ empty _ =>
    Or.inr (List.nil_eq_append_iff.mp empty).1⟩, ⟨maskWith_nil.symm⟩⟩

/-- No word reaches over a character that belongs to none. -/
theorem parts_of_apart (apart : Char.isWord c = false) (before text : Text) :
    Parts (before ++ [c]) text := by
  intro ahead first second behind split _ named
  rcases List.eq_nil_or_concat first with rfl | ⟨others, last, rfl⟩
  · exact Or.inl rfl
  · rw [List.concat_eq_append, ← List.append_assoc] at split
    obtain ⟨-, same⟩ := List.append_inj' split rfl
    obtain rfl := (List.cons.inj same).1
    have kind := (isSolid_of_isCurrentColor named).solid c (by simp)
    rw [apart] at kind
    cases kind

/-- Behind a character that belongs to no word the two places belong together. -/
theorem tracks_behind (apart : Char.isWord c = false) (stood : c :: text <:+ style)
    (aligned : Aligned mask text masked) : Tracks style mask text masked := by
  obtain ⟨before, rfl⟩ := stood
  exact ⟨⟨before ++ [c], by simp, parts_of_apart apart before text⟩, aligned⟩

theorem Tracks.suffix (tracks : Tracks style mask text masked) : text <:+ style := by
  obtain ⟨before, rfl, -⟩ := tracks.front
  exact List.suffix_append before text

theorem Tracks.alongside (tracks : Tracks style mask text masked) : Alongside mask text masked :=
  Or.inl tracks.aligned

/-! ### The next character -/

/-- What comes next: nothing, the same character, or the word with the masking colour in its
place. -/
inductive NextOf (style mask text masked : Text) : Prop
  | ended (source : text = []) (target : masked = [])
  | same (c : Char) (text' masked' : Text) (source : text = c :: text')
    (target : masked = c :: masked') (behind : Tracks style mask text' masked')
  | word (word rest masked' : Text) (named : isCurrentColor word = true)
    (source : text = word ++ rest) (target : masked = mask ++ masked')
    (behind : Tracks style mask rest masked')

section

variable (alone : StandsAlone style) (isMask : IsMask mask)

include alone

/-- Behind a word that stands alone no word goes on. -/
theorem wordEnds_of_standsAlone (stood : word ++ rest <:+ style)
    (named : isCurrentColor word = true) : Text.wordEnds rest = true := by
  cases rest with
  | nil => rfl
  | cons c rest =>
    obtain ⟨before, split⟩ := stood
    have joins := alone.behind before word c rest split.symm named
    simp only [joinsBehind, Bool.or_eq_false_iff] at joins
    simp [Text.wordEnds, joins.1.1]

include isMask

/-- Behind a character that both have, the places still belong together: the word does not start at
it, since it would be masked. -/
theorem Tracks.same (tracks : Tracks style mask (c :: text) (c :: masked))
    (behind : Behind mask c text masked) : Tracks style mask text masked := by
  obtain ⟨before, rfl, parts⟩ := tracks.front
  cases kind : Char.isWord c with
  | false => exact tracks_behind kind (List.suffix_append _ _) (behind.aligned kind)
  | true =>
    obtain ⟨word, rest, solid, ends, rfl, rfl⟩ := behind.within kind
    refine ⟨⟨before ++ [c], by simp, ?_⟩, ⟨?_⟩⟩
    · intro ahead first second after split split' named
      rcases List.eq_nil_or_concat first with rfl | ⟨others, last, rfl⟩
      · exact Or.inl rfl
      · rw [List.concat_eq_append] at split named ⊢
        rw [← List.append_assoc] at split
        obtain ⟨rfl, same⟩ := List.append_inj' split rfl
        obtain rfl := (List.cons.inj same).1
        rw [List.append_assoc, List.singleton_append] at named
        rcases parts ahead others (c :: second) after rfl (by rw [split', List.cons_append]) named
          with rfl | none
        · rw [List.nil_append] at named
          have stood : (c :: second) ++ after <:+ ahead ++ [] ++ c :: (word ++ rest) := by
            rw [split', ← List.cons_append]
            exact List.suffix_append _ _
          have ends' := wordEnds_of_standsAlone alone stood named
          have whole : maskWith mask (c :: (second ++ after)) =
              maskWord mask (c :: second) ++ maskWith mask after :=
            maskWith_word (isSolid_of_isCurrentColor named) ends'
          have same := tracks.aligned.same
          rw [split', whole, maskWord, if_pos named] at same
          obtain ⟨digits, rfl, -⟩ := isMask.shape
          rw [(List.cons.inj same).1] at kind
          cases kind
        · cases none
    · cases word with
      | nil => rfl
      | cons first word =>
        rw [maskWith_word ⟨List.cons_ne_nil _ _, solid⟩ ends, maskWord, if_neg]
        intro named
        have joins := alone.ahead before c (first :: word) rest rfl named
        simp only [joinsAhead, kind, Bool.true_or] at joins
        cases joins

/-- **What comes next** at two places of the styles. -/
theorem Tracks.next (tracks : Tracks style mask text masked) : NextOf style mask text masked := by
  cases masked with
  | nil => exact .ended (tracks.alongside.nil isMask) rfl
  | cons c masked =>
    rcases tracks.aligned.cons with ⟨text', rfl, behind⟩ | ⟨word, rest, named, ends, rfl, same⟩
    · exact .same c text' masked rfl rfl (tracks.same alone isMask behind)
    · obtain ⟨before, split, -⟩ := tracks.front
      refine .word word rest _ named rfl same ⟨⟨before ++ word, by rw [split, List.append_assoc], ?_⟩,
        ⟨rfl⟩⟩
      intro ahead first second behind _ split' named'
      cases second with
      | nil => exact Or.inr rfl
      | cons d second =>
        have kind := (isSolid_of_isCurrentColor named').solid d (by simp)
        rw [split', List.cons_append, Text.wordEnds, kind] at ends
        cases ends

/-- The word does not start behind a character that goes on with it. -/
theorem Tracks.head?_eq (joins : joinsAhead c = true) (stood : c :: text <:+ style)
    (tracks : Tracks style mask text masked) : text.head? = masked.head? := by
  rcases tracks.next alone isMask with
    ⟨rfl, rfl⟩ | ⟨d, text', masked', rfl, rfl, -⟩ | ⟨word, rest, masked', named, rfl, -, -⟩
  · rfl
  · rfl
  · obtain ⟨before, split⟩ := stood
    rw [alone.ahead before c word rest split.symm named] at joins
    cases joins

/-- Where both styles start with the same character, the word does not stand. -/
theorem Tracks.nextSame (tracks : Tracks style mask text masked)
    (head : text.head? = masked.head?) :
    (text = [] ∧ masked = []) ∨ ∃ c text' masked', text = c :: text' ∧ masked = c :: masked' ∧
      Tracks style mask text' masked' := by
  rcases tracks.next alone isMask with
    ⟨rfl, rfl⟩ | ⟨c, text', masked', rfl, rfl, behind⟩ | ⟨word, rest, masked', named, rfl, rfl, -⟩
  · exact Or.inl ⟨rfl, rfl⟩
  · exact Or.inr ⟨c, text', masked', rfl, rfl, behind⟩
  · obtain ⟨letter, others, rfl, isLetter⟩ := exists_letter_of_isCurrentColor named
    obtain ⟨digits, rfl, -⟩ := isMask.shape
    obtain rfl := Option.some.inj head
    rcases isLetter with isLetter | isLetter <;> cases isLetter

/-! ### Runs of characters -/

/-- **A run of characters that go on with the word** is the same in both styles. -/
theorem Tracks.run (joins : ∀ c, p c = true → joinsAhead c = true)
    (tracks : Tracks style mask text masked) (head : text.head? = masked.head?) :
    text.takeWhile p = masked.takeWhile p ∧
      Tracks style mask (text.dropWhile p) (masked.dropWhile p) ∧
      (text.dropWhile p).head? = (masked.dropWhile p).head? := by
  induction text generalizing masked with
  | nil =>
    cases masked with
    | nil => exact ⟨rfl, tracks, rfl⟩
    | cons d masked => cases head
  | cons c text ih =>
    have stood := tracks.suffix
    rcases tracks.nextSame alone isMask head with ⟨source, -⟩ | ⟨d, text', masked', source, rfl, behind⟩
    · cases source
    · cases source
      cases kept : p c with
      | true =>
        obtain ⟨taken, left, head⟩ :=
          ih behind (behind.head?_eq alone isMask (joins c kept) stood)
        simp only [List.takeWhile_cons, List.dropWhile_cons, kept, if_true]
        exact ⟨by rw [taken], left, head⟩
      | false =>
        simp only [List.takeWhile_cons, List.dropWhile_cons, kept, Bool.false_eq_true, if_false]
        exact ⟨trivial, tracks, head⟩

/-- **A run of characters that ends at the word** is the same in both styles. -/
theorem Tracks.skip (stops : StopsAtWords p) (tracks : Tracks style mask text masked) :
    text.takeWhile p = masked.takeWhile p ∧
      Tracks style mask (text.dropWhile p) (masked.dropWhile p) := by
  induction text generalizing masked with
  | nil =>
    have none := (tracks.alongside.isEmpty_eq isMask).symm
    obtain rfl := List.isEmpty_iff.mp none
    exact ⟨rfl, tracks⟩
  | cons c text ih =>
    rcases tracks.next alone isMask with
      ⟨source, -⟩ | ⟨d, text', masked', source, rfl, behind⟩ |
        ⟨word, rest, masked', named, source, rfl, -⟩
    · cases source
    · cases source
      simp only [List.takeWhile_cons, List.dropWhile_cons]
      split
      · obtain ⟨taken, left⟩ := ih behind
        exact ⟨by rw [taken], left⟩
      · exact ⟨rfl, tracks⟩
    · obtain ⟨letter, others, rfl, isLetter⟩ := exists_letter_of_isCurrentColor named
      obtain rfl := (List.cons.inj source).1
      obtain ⟨digits, rfl, -⟩ := isMask.shape
      simp only [List.takeWhile_cons, List.dropWhile_cons, List.cons_append, stops.mark,
        stops.letter isLetter, Bool.false_eq_true, if_false]
      exact ⟨trivial, tracks⟩

theorem Tracks.skipSpace (tracks : Tracks style mask text masked) :
    Tracks style mask (Text.skipSpace text) (Text.skipSpace masked) :=
  (tracks.skip alone isMask (p := Char.isSpace) ⟨rfl, rfl, rfl⟩).2

end

/-! ### Pieces -/

/-- A word that comes apart into two is masked in two pieces where neither it nor its parts are the
word for the surrounding colour. -/
theorem maskWith_joined {first second rest : Text} (solid : IsSolid first) (solid' : IsSolid second)
    (ends : Text.wordEnds rest = true) (whole : isCurrentColor (first ++ second) = false)
    (other : isCurrentColor first = false) (other' : isCurrentColor second = false) :
    maskWith mask (first ++ second ++ rest) =
      maskWith mask first ++ maskWith mask (second ++ rest) := by
  have joined : IsSolid (first ++ second) :=
    ⟨List.append_ne_nil_of_left_ne_nil solid.some _,
      List.forall_mem_append.mpr ⟨solid.solid, solid'.solid⟩⟩
  have alone : maskWith mask (first ++ []) = maskWord mask first ++ maskWith mask [] :=
    maskWith_word solid rfl
  rw [List.append_nil, maskWith_nil, List.append_nil] at alone
  rw [alone, maskWith_word joined ends, maskWith_word solid' ends, maskWord, maskWord, maskWord,
    whole, other, other', if_neg Bool.false_ne_true, if_neg Bool.false_ne_true,
    if_neg Bool.false_ne_true, List.append_assoc]

/-- A word that goes on is not the word where that stands alone. -/
theorem not_isCurrentColor_of_onward {c : Char} {after : Text}
    (alone : StandsAlone (before ++ (word ++ c :: after))) (kind : Char.isWord c = true) :
    isCurrentColor word = false := by
  rw [← Bool.not_eq_true]
  intro named
  have joins := alone.behind before word c after rfl named
  simp only [joinsBehind, kind, Bool.true_or] at joins
  cases joins

/-- What goes on with a word is not the word where that stands alone. -/
theorem not_isCurrentColor_of_behind {first after : Text} (solid : IsSolid first)
    (alone : StandsAlone (before ++ (first ++ (word ++ after)))) : isCurrentColor word = false := by
  rw [← Bool.not_eq_true]
  intro named
  obtain ⟨init, last, rfl⟩ := (List.eq_nil_or_concat first).resolve_left solid.some
  have joins := alone.ahead (before ++ init) last word after (by simp) named
  have kind := solid.solid last (by simp)
  simp only [joinsAhead, kind, Bool.true_or] at joins
  cases joins

/-- A text is masked in two pieces, unless letters of one word stand in both. -/
theorem maskWith_append_of_parts {piece : Text} (alone : StandsAlone (before ++ (piece ++ text)))
    (parts : Parts (before ++ piece) text) :
    maskWith mask (piece ++ text) = maskWith mask piece ++ maskWith mask text := by
  induction piece using word_induction generalizing before with
  | nil => rw [List.nil_append, maskWith_nil, List.nil_append]
  | apart c piece apart ih =>
    have alone' : StandsAlone (before ++ [c] ++ (piece ++ text)) := by simpa using alone
    rw [List.cons_append, maskWith_cons apart, maskWith_cons apart, List.cons_append,
      ih alone' (by simpa using parts)]
  | word word piece solid ends ih =>
    by_cases ends' : Text.wordEnds (piece ++ text) = true
    · have alone' : StandsAlone (before ++ word ++ (piece ++ text)) := by simpa using alone
      rw [List.append_assoc, maskWith_word solid ends', maskWith_word solid ends,
        List.append_assoc, ih alone' (by simpa using parts)]
    · -- the word goes on in the second piece
      obtain rfl : piece = [] := by
        cases piece with
        | nil => rfl
        | cons c piece => exact absurd ends ends'
      obtain ⟨d, others, rfl, kind⟩ : ∃ d others, text = d :: others ∧ Char.isWord d = true := by
        cases text with
        | nil => exact absurd rfl ends'
        | cons d others => exact ⟨d, others, rfl, by simpa [Text.wordEnds] using ends'⟩
      obtain ⟨hit, found⟩ : ∃ hit, wordRun (d :: others) = some hit := by
        rw [wordRun, if_pos kind]
        exact ⟨_, rfl⟩
      obtain ⟨solid', ends'', split⟩ := exists_word_of_wordRun found
      rw [List.append_nil] at alone parts ⊢
      have first := not_isCurrentColor_of_onward alone kind
      rw [split] at alone ⊢
      have second := not_isCurrentColor_of_behind solid alone
      have both : isCurrentColor (word ++ hit.value) = false := by
        rw [← Bool.not_eq_true]
        intro named
        rcases parts before word hit.value hit.rest rfl split named with none | none
        · exact solid.some none
        · exact solid'.some none
      rw [← List.append_assoc]
      exact maskWith_joined solid solid' ends'' both first second

section

variable (alone : StandsAlone style)

include alone

/-- **A piece of a style** between two such places is masked by itself. -/
theorem Tracks.between {piece : Text} (tracks : Tracks style mask (piece ++ text) masked)
    (behind : Tracks style mask text rest') : masked = maskWith mask piece ++ rest' := by
  obtain ⟨before, rfl, -⟩ := tracks.front
  obtain ⟨before', split', parts⟩ := behind.front
  have same : before ++ piece = before' := by
    rw [← List.append_assoc] at split'
    exact List.append_cancel_right split'
  rw [tracks.aligned.same, behind.aligned.same]
  exact maskWith_append_of_parts alone (same ▸ parts)

end

end IconComponents.Svg
