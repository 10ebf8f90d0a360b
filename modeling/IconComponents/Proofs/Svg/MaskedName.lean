/-
**The names in a masked style.**

Comments are the same in a masked style, and so are identifiers, unless the word stands in place of
one: a masking colour is none. The name of a declaration is never the word, since it stands alone.

* `Tracks.skipComments` — white space and comments;
* `SameStretch` — a reading that takes the same in both styles;
* `Tracks.identifier`, `Tracks.declaredName` — identifiers, and names of declarations.
-/

import IconComponents.Proofs.Svg.StandingAlone

namespace IconComponents.Svg

variable {style mask text masked rest rest' word inner : Text} {c : Char}

/-! ### Comments -/

theorem skipComments?_of_comment (start : Text.skipSpace text = '/' :: '*' :: inner) :
    skipComments? text =
      (Text.cut? "*/".toList inner).bind fun (_, rest) => skipComments? rest := by
  rw [skipComments?]
  split
  · next inner' start' =>
    rw [start] at start'
    obtain rfl := (List.cons.inj (List.cons.inj start').2).2
    split
    · next unclosed => simp only [unclosed, Option.bind_none]
    · next closed => simp only [closed, Option.bind_some]
  · next other => exact absurd start (other inner)

theorem skipComments?_of_plain (plain : ∀ inner, Text.skipSpace text ≠ '/' :: '*' :: inner) :
    skipComments? text = some (Text.skipSpace text) := by
  rw [skipComments?]
  split
  · next inner start => exact absurd start (plain inner)
  · rfl

section

variable (alone : StandsAlone style) (isMask : IsMask mask)

include alone isMask

/-- A character that no word starts with is in both styles. -/
theorem Tracks.cons (other : c ≠ 'c' ∧ c ≠ 'C') (tracks : Tracks style mask (c :: text) masked) :
    ∃ masked', masked = c :: masked' ∧ Tracks style mask text masked' := by
  rcases tracks.next alone isMask with
    ⟨source, -⟩ | ⟨d, text', masked', source, target, behind⟩ |
      ⟨word, rest, masked', named, source, -, -⟩
  · cases source
  · cases source
    exact ⟨masked', target, behind⟩
  · obtain ⟨letter, others, rfl, isLetter⟩ := exists_letter_of_isCurrentColor named
    obtain rfl := (List.cons.inj source).1
    exact absurd isLetter (not_or.mpr other)

/-- A character that no masking colour starts with is in both styles. -/
theorem Tracks.uncons (other : c ≠ '#') (tracks : Tracks style mask text (c :: masked)) :
    ∃ text', text = c :: text' ∧ Tracks style mask text' masked := by
  rcases tracks.next alone isMask with
    ⟨-, target⟩ | ⟨d, text', masked', source, target, behind⟩ |
      ⟨word, rest, masked', named, -, target, -⟩
  · cases target
  · cases target
    exact ⟨text', source, behind⟩
  · obtain ⟨digits, rfl, -⟩ := isMask.shape
    exact absurd (List.cons.inj target).1 other

omit alone in
/-- What is behind the mark that closes a comment. -/
theorem Tracks.behindComment (tracks : Tracks style mask text masked) :
    Option.Rel (fun parts parts' => Tracks style mask parts.2 parts'.2)
      (Text.cut? "*/".toList text) (Text.cut? "*/".toList masked) := by
  have apart : IsApart "*/".toList := .of_all (by decide) (by decide)
  have both := tracks.alongside.cut? isMask apart
  have stood {before behind : Text} (cut : Text.cut? "*/".toList text = some (before, behind)) :
      '/' :: behind <:+ style := by
    refine List.IsSuffix.trans ?_ tracks.suffix
    rw [Text.eq_append_of_cut? cut, List.append_assoc]
    exact (List.suffix_cons '*' ('/' :: behind)).trans (List.suffix_append _ _)
  generalize Text.cut? "*/".toList text = one at both stood
  generalize Text.cut? "*/".toList masked = other at both
  cases both with
  | none => exact .none
  | some both => exact .some (tracks_behind (by decide) (stood rfl) both.2)

/-- **White space and comments** are passed over in both styles. -/
theorem Tracks.skipComments (tracks : Tracks style mask text masked) :
    Option.Rel (Tracks style mask) (skipComments? text) (skipComments? masked) := by
  induction size : text.length using Nat.strongRecOn generalizing text masked with
  | _ n ih =>
    subst size
    have left := tracks.skipSpace alone isMask
    by_cases comment : ∃ inner, Text.skipSpace text = '/' :: '*' :: inner
    · obtain ⟨inner, start⟩ := comment
      rw [start] at left
      obtain ⟨_, target, star⟩ := left.cons alone isMask (by decide)
      obtain ⟨inner', rfl, inside⟩ := star.cons alone isMask (by decide)
      have behind := inside.behindComment isMask
      have shorter {before rest : Text}
          (cut : Text.cut? "*/".toList inner = some (before, rest)) : rest.length < text.length :=
        length_lt_of_comment start cut
      rw [skipComments?_of_comment start, skipComments?_of_comment target]
      generalize Text.cut? "*/".toList inner = one at behind shorter
      generalize Text.cut? "*/".toList inner' = other at behind
      cases behind with
      | none => exact .none
      | some behind => exact ih _ (shorter rfl) behind rfl
    · rw [not_exists] at comment
      rw [skipComments?_of_plain comment, skipComments?_of_plain]
      · exact .some left
      · intro inner' start
        rw [start] at left
        obtain ⟨_, source, star⟩ := left.uncons alone isMask (by decide)
        obtain ⟨inner, rfl, -⟩ := star.uncons alone isMask (by decide)
        exact comment inner source

end

section

variable (alone : StandsAlone style) (isMask : IsMask mask)

include alone isMask

/-- **Given words** without the first letter of the word are in both styles or in none. -/
theorem Tracks.after? {needle : Text} (other : ∀ c ∈ needle, (c ≠ 'c' ∧ c ≠ 'C') ∧ c ≠ '#')
    (tracks : Tracks style mask text masked) :
    Option.Rel (Tracks style mask) (Text.after? needle text) (Text.after? needle masked) := by
  induction needle generalizing text masked with
  | nil => exact .some tracks
  | cons n needle ih =>
    obtain ⟨⟨first, unmarked⟩, other⟩ := List.forall_mem_cons.mp other
    rcases tracks.next alone isMask with
      ⟨rfl, rfl⟩ | ⟨c, text, masked, rfl, rfl, behind⟩ | ⟨word, rest, masked', named, rfl, rfl, -⟩
    · exact .none
    · rw [Text.after?, Text.after?]
      split
      · exact ih other behind
      · exact .none
    · obtain ⟨letter, others, rfl, isLetter⟩ := exists_letter_of_isCurrentColor named
      obtain ⟨digits, rfl, -⟩ := isMask.shape
      rw [List.cons_append, List.cons_append, Text.after?, Text.after?, if_neg, if_neg]
      · exact .none
      · exact unmarked
      · rintro rfl
        exact absurd isLetter (not_or.mpr first)

end

/-! ### Identifiers -/

/-- What is read of both styles is the same, and reading stops at the same place. -/
structure SameAttempt (style mask : Text) (attempt attempt' : Attempt) : Prop where
  found : attempt.found = attempt'.found
  rest : Tracks style mask attempt.rest attempt'.rest

/-- What is read of both styles by `read` is the same stretch. Where nothing is found, what is left
starts with the same character. -/
structure SameStretch (style mask : Text) (read : Text → Attempt) (text masked : Text) : Prop where
  attempt : SameAttempt style mask (read text) (read masked)
  taken : ∃ stretch, text = stretch ++ (read text).rest ∧ masked = stretch ++ (read masked).rest
  head : (read text).rest.head? = (read masked).rest.head?

theorem sameStretch_of_eq {read : Text → Attempt} {found : Bool} (stretch : Text)
    (source : read text = ⟨found, rest⟩) (target : read masked = ⟨found, rest'⟩)
    (taken : text = stretch ++ rest) (taken' : masked = stretch ++ rest')
    (left : Tracks style mask rest rest') (head : rest.head? = rest'.head?) :
    SameStretch style mask read text masked := by
  refine ⟨?_, ⟨stretch, ?_, ?_⟩, ?_⟩
  · rw [source, target]
    exact ⟨rfl, left⟩
  · rw [source]
    exact taken
  · rw [target]
    exact taken'
  · rw [source, target]
    exact head

theorem joinsAhead_of_part (part : isIdentifierPart c = true) : joinsAhead c = true := by
  simp [joinsAhead, part]

theorem identifier_nil : identifier [] = ⟨false, []⟩ := rfl

theorem identifier_hyphen_nil : identifier ['-'] = ⟨true, []⟩ := rfl

theorem identifier_cons (other : c ≠ '-') (text : Text) : identifier (c :: text) =
    if isIdentifierStart c then ⟨true, text.dropWhile isIdentifierPart⟩ else ⟨false, c :: text⟩ := by
  have kept : skipHyphen (c :: text) = c :: text := by
    unfold skipHyphen
    split
    · next same => exact absurd (List.cons.inj same).1 other
    · rfl
  unfold identifier
  rw [kept]

theorem identifier_hyphen_cons (c : Char) (text : Text) : identifier ('-' :: c :: text) =
    if isIdentifierStart c then ⟨true, text.dropWhile isIdentifierPart⟩ else ⟨false, c :: text⟩ :=
  rfl

section

variable (alone : StandsAlone style) (isMask : IsMask mask)

include alone isMask

/-- What is read of an identifier from its first letter on, behind `lead`. -/
theorem Tracks.identifierFrom (lead : Text)
    (read : ∀ text, identifier (lead ++ c :: text) = if isIdentifierStart c then
      ⟨true, text.dropWhile isIdentifierPart⟩ else ⟨false, c :: text⟩)
    (tracks : Tracks style mask (c :: text) (c :: masked))
    (behind : Tracks style mask text masked) :
    SameStretch style mask identifier (lead ++ c :: text) (lead ++ c :: masked) := by
  cases start : isIdentifierStart c with
  | false =>
    rw [start] at read
    exact sameStretch_of_eq lead (read text) (read masked) rfl rfl tracks rfl
  | true =>
    rw [start] at read
    have part : isIdentifierPart c = true := by simp [isIdentifierPart, start]
    obtain ⟨taken, left, head⟩ := behind.run alone isMask (fun _ => joinsAhead_of_part)
      (behind.head?_eq alone isMask (joinsAhead_of_part part) tracks.suffix)
    have whole (text : Text) : lead ++ c :: text =
        lead ++ c :: text.takeWhile isIdentifierPart ++ text.dropWhile isIdentifierPart := by
      rw [List.append_assoc, List.cons_append, List.takeWhile_append_dropWhile]
    exact sameStretch_of_eq (lead ++ c :: text.takeWhile isIdentifierPart) (read text) (read masked)
      (whole text) (taken ▸ whole masked) left head

/-- **An identifier** is the same in both styles, unless the word stands in its place. -/
theorem Tracks.identifier (tracks : Tracks style mask text masked)
    (head : text.head? = masked.head?) : SameStretch style mask identifier text masked := by
  rcases tracks.nextSame alone isMask head with ⟨rfl, rfl⟩ | ⟨c, text', masked', rfl, rfl, behind⟩
  · exact sameStretch_of_eq [] identifier_nil identifier_nil rfl rfl tracks rfl
  · by_cases hyphen : c = '-'
    · subst hyphen
      rcases behind.nextSame alone isMask
          (behind.head?_eq alone isMask (by decide) tracks.suffix) with
        ⟨rfl, rfl⟩ | ⟨c, text, masked, rfl, rfl, behind'⟩
      · exact sameStretch_of_eq ['-'] identifier_hyphen_nil identifier_hyphen_nil rfl rfl
          behind rfl
      · exact behind.identifierFrom alone isMask ['-'] (identifier_hyphen_cons c) behind'
    · exact tracks.identifierFrom alone isMask [] (identifier_cons hyphen) behind

end

/-! ### Names -/

/-- The name at the front of a text, with what is behind the colon after it. -/
def nameAhead? (text : Text) : Option (Text × Text) :=
  if (identifier text).found then
    (skipComments? (identifier text).rest).bind fun gap =>
      if gap.head? = some ':' then
        some (text.take (text.length - (identifier text).rest.length), gap.tail)
      else none
  else none

theorem declaredName?_eq (text : Text) :
    declaredName? text = (skipComments? text).bind fun start => nameAhead? (skipStar start) := by
  unfold declaredName? nameAhead?
  cases skipComments? text with
  | none => rfl
  | some start =>
    simp only [Option.bind_eq_bind, Option.bind_some]
    cases read : identifier (skipStar start) with
    | mk found rest =>
      cases found with
      | false => rfl
      | true =>
        simp only [if_true]
        cases skipComments? rest with
        | none => rfl
        | some gap =>
          simp only [Option.bind_some]
          split
          · simp
          · next other =>
            rw [if_neg]
            intro head
            obtain ⟨behind, rfl⟩ := List.head?_eq_some_iff.mp head
            exact other behind rfl

/-- The word is an identifier, up to its end. -/
theorem identifier_word (alone : StandsAlone style) (named : isCurrentColor word = true)
    (stood : word ++ rest <:+ style) : identifier (word ++ rest) = ⟨true, rest⟩ := by
  have letters := isAlpha_of_isCurrentColor named
  obtain ⟨letter, others, rfl, isLetter⟩ := exists_letter_of_isCurrentColor named
  obtain ⟨first, letters⟩ := List.forall_mem_cons.mp letters
  have other : letter ≠ '-' := by
    rcases isLetter with rfl | rfl <;> decide
  have parts : ∀ c ∈ others, isIdentifierPart c = true := fun c member => by
    simp [isIdentifierPart, isIdentifierStart, letters c member]
  have ends : rest.dropWhile isIdentifierPart = rest := by
    cases rest with
    | nil => rfl
    | cons c rest =>
      obtain ⟨before, split⟩ := stood
      have joins := alone.behind before (letter :: others) c rest split.symm named
      simp only [joinsBehind, Bool.or_eq_false_iff] at joins
      rw [List.dropWhile_cons_of_neg (by simp [joins.1.2])]
  rw [List.cons_append, identifier_cons other, if_pos (by simp [isIdentifierStart, first]),
    List.dropWhile_append_of_pos parts, ends]

section

variable (alone : StandsAlone style) (isMask : IsMask mask)

include alone isMask

/-- A star in front of a name is skipped alike. -/
theorem Tracks.skipStar (tracks : Tracks style mask text masked) :
    Tracks style mask (skipStar text) (skipStar masked) := by
  have kept {c : Char} (other : c ≠ '*') (text : Text) : Svg.skipStar (c :: text) = c :: text := by
    unfold Svg.skipStar
    split
    · next same => exact absurd (List.cons.inj same).1 other
    · rfl
  rcases tracks.next alone isMask with
    ⟨rfl, rfl⟩ | ⟨c, text', masked', rfl, rfl, behind⟩ | ⟨word, rest, masked', named, rfl, rfl, -⟩
  · exact tracks
  · by_cases star : c = '*'
    · subst star
      exact behind
    · rwa [kept star, kept star]
  · obtain ⟨letter, others, rfl, isLetter⟩ := exists_letter_of_isCurrentColor named
    obtain ⟨digits, rfl, -⟩ := isMask.shape
    have other : letter ≠ '*' := by
      rcases isLetter with rfl | rfl <;> decide
    rwa [List.cons_append, List.cons_append, kept other, kept (by decide)]

/-- A name at the front of both styles is the same where they start with the same character. -/
theorem Tracks.nameAhead_of_head (head : text.head? = masked.head?)
    (tracks : Tracks style mask text masked) :
    Option.Rel (fun read read' => read.1 = read'.1 ∧ Tracks style mask read.2 read'.2)
      (nameAhead? text) (nameAhead? masked) := by
  obtain ⟨⟨found, behind⟩, ⟨stretch, source, target⟩, -⟩ := tracks.identifier alone isMask head
  have part {text rest : Text} (split : text = stretch ++ rest) :
      text.take (text.length - rest.length) = stretch := by
    rw [split]
    simp
  unfold nameAhead?
  rw [found, part source, part target]
  split
  · refine rel_bind (behind.skipComments alone isMask) fun gap gap' _ gaps => ?_
    have colon := gaps.alongside.head?_eq_iff isMask (c := ':') (by decide) (by decide)
    by_cases named : gap.head? = some ':'
    · rw [if_pos named, if_pos (colon.mp named)]
      obtain ⟨gap, rfl⟩ := List.head?_eq_some_iff.mp named
      obtain ⟨_, rfl, behind'⟩ := gaps.cons alone isMask (by decide)
      exact .some ⟨rfl, behind'⟩
    · rw [if_neg named, if_neg (mt colon.mpr named)]
      exact .none
  · exact .none

omit isMask in
/-- The word is no name of a declaration. -/
theorem nameAhead?_word (named : isCurrentColor word = true) (stood : word ++ rest <:+ style) :
    nameAhead? (word ++ rest) = none := by
  obtain ⟨before, split⟩ := stood
  have unnamed := alone.unnamed before word rest split.symm named
  rw [nameAhead?, identifier_word alone named ⟨before, split⟩, if_pos rfl]
  refine Option.bind_eq_none_iff.mpr fun gap skipped => if_neg fun colon => ?_
  obtain ⟨behind, rfl⟩ := List.head?_eq_some_iff.mp colon
  exact unnamed behind skipped

/-- **The name of a declaration** is the same in both styles. -/
theorem Tracks.declaredName (tracks : Tracks style mask text masked) :
    Option.Rel (fun read read' => read.1 = read'.1 ∧ Tracks style mask read.2 read'.2)
      (declaredName? text) (declaredName? masked) := by
  rw [declaredName?_eq, declaredName?_eq]
  refine rel_bind (tracks.skipComments alone isMask) fun start start' _ left => ?_
  have left := left.skipStar alone isMask
  by_cases head : (Svg.skipStar start).head? = (Svg.skipStar start').head?
  · exact left.nameAhead_of_head alone isMask head
  · generalize Svg.skipStar start = text at left head ⊢
    generalize Svg.skipStar start' = masked at left head ⊢
    rcases left.next alone isMask with
      ⟨rfl, rfl⟩ | ⟨c, _, _, rfl, rfl, -⟩ | ⟨word, rest, masked', named, rfl, rfl, -⟩
    · exact absurd rfl head
    · exact absurd rfl head
    · obtain ⟨digits, rfl, -⟩ := isMask.shape
      have mark : nameAhead? ('#' :: digits ++ masked') = none := rfl
      rw [nameAhead?_word alone named left.suffix, mark]
      exact .none

end

end IconComponents.Svg
