/-
**The terms of a masked style.**

A masking colour is a term of a value, as the word is, and every other term is the same in a masked
style, apart from what its brackets and quotation marks hold.

* `call_eq`, `behindUnit_eq`, `behindNumber_eq`, `behindHash_eq` — the parts of a term;
* `IsHashed` — a mask that is read like a colour;
* `Tracks.term` — a term in both styles.
-/

import IconComponents.Proofs.Svg.MaskedName

namespace IconComponents.Svg

variable {style mask text masked rest rest' word inner : Text} {c : Char}

/-! ### Equations of terms -/

/-- What is behind a closing bracket, if there is one. -/
def behindBracket (inner : Text) : Attempt :=
  match inner.dropWhile (· != ')') with
  | [] => ⟨false, []⟩
  | _ :: rest => ⟨true, rest⟩

theorem call_eq (text : Text) : call text =
    if (identifier text).found = true ∧ (identifier text).rest.head? = some '(' then
      behindBracket (identifier text).rest.tail
    else identifier text := by
  unfold call
  split
  · next inner read =>
    rw [if_pos (by rw [read]; exact ⟨rfl, rfl⟩), read]
    rfl
  · next other =>
    rw [if_neg]
    rintro ⟨found, bracket⟩
    obtain ⟨inner, rest⟩ := List.head?_eq_some_iff.mp bracket
    exact other inner (Attempt.mk.injEq .. ▸ ⟨found, rest⟩ : identifier text = ⟨true, '(' :: inner⟩)

theorem behindUnit_eq (text : Text) : behindUnit text =
    if text.head? = some '%' then text.tail else (identifier text).rest := by
  unfold behindUnit
  split
  · rfl
  · next other =>
    rw [if_neg]
    intro percent
    obtain ⟨rest, rfl⟩ := List.head?_eq_some_iff.mp percent
    exact other rest rfl

theorem behindNumber_eq (text : Text) : behindNumber text =
    if (text.dropWhile Char.isDigit).head? = some '.' then
      behindUnit ((text.dropWhile Char.isDigit).tail.dropWhile Char.isDigit)
    else behindUnit (text.dropWhile Char.isDigit) := by
  unfold behindNumber
  split
  · next fraction point => rw [point]; rfl
  · next other =>
    rw [if_neg]
    intro point
    obtain ⟨fraction, split⟩ := List.head?_eq_some_iff.mp point
    exact other fraction split

theorem behindHash_eq (text : Text) : behindHash text =
    if (identifier text).found then (identifier text).rest
    else (identifier text).rest.dropWhile Char.isHexDigit := by
  unfold behindHash
  cases identifier text with
  | mk found rest => cases found <;> rfl

theorem joinsAhead_of_isAlphanum (solid : c.isAlphanum = true) : joinsAhead c = true := by
  refine joinsAhead_of_part ?_
  rw [Char.isAlphanum, Bool.or_eq_true] at solid
  rcases solid with letter | digit <;> simp [isIdentifierPart, isIdentifierStart, *]

theorem joinsAhead_of_isDigit (digit : c.isDigit = true) : joinsAhead c = true :=
  joinsAhead_of_part (by simp [isIdentifierPart, digit])

/-! ### Quotation marks -/

/-- A stretch without quotation marks and backslashes is passed over. -/
theorem behindQuote?_append {quote : Char} {stretch : Text} (nonempty : stretch ≠ [])
    (plain : ∀ c ∈ stretch, c ≠ quote ∧ c ≠ '\\') (escaped : Bool) (rest : Text) :
    behindQuote? quote escaped (stretch ++ rest) = behindQuote? quote false rest := by
  induction stretch generalizing escaped with
  | nil => exact absurd rfl nonempty
  | cons c stretch ih =>
    obtain ⟨⟨other, straight⟩, plain⟩ := List.forall_mem_cons.mp plain
    rw [List.cons_append, behindQuote?, if_neg (by simp [other]), decide_eq_false straight]
    cases stretch with
    | nil => rfl
    | cons d stretch => exact ih (List.cons_ne_nil _ _) plain false

/-- Quoted texts end at the same places. -/
theorem behindQuote?_maskWith (isMask : IsMask mask) {quote : Char} (apart : Char.isWord quote = false)
    (unmarked : quote ≠ '#') (escaped : Bool) (text : Text) :
    behindQuote? quote escaped (maskWith mask text) =
      (behindQuote? quote escaped text).map (maskWith mask) := by
  induction text using word_induction generalizing escaped with
  | nil => rw [maskWith_nil]; rfl
  | apart c text kind ih =>
    rw [maskWith_cons kind, behindQuote?, behindQuote?]
    split
    · rfl
    · exact ih _
  | word word rest solid ends ih =>
    have plain : ∀ c, c = '#' ∨ Char.isWord c = true → c ≠ quote ∧ c ≠ '\\' := by
      rintro c (rfl | word)
      · exact ⟨unmarked.symm, by decide⟩
      · constructor <;> rintro rfl
        · rw [apart] at word
          cases word
        · exact absurd word (by decide)
    have head := maskWord_head isMask solid
    rw [maskWith_word solid ends, behindQuote?_append _ fun c member => plain c (head c member),
      behindQuote?_append solid.some fun c member => plain c (Or.inr (solid.solid c member)), ih]
    unfold maskWord
    split
    · exact isMask.some
    · exact solid.some

theorem suffix_of_behindQuote? {quote : Char} {escaped : Bool}
    (found : behindQuote? quote escaped text = some rest) : quote :: rest <:+ text := by
  induction text generalizing escaped with
  | nil => cases found
  | cons c text ih =>
    rw [behindQuote?] at found
    split at found
    · next closes =>
      obtain rfl := Option.some.inj found
      obtain rfl : c = quote := by simpa using (Bool.and_eq_true_iff.mp closes).1
      exact List.suffix_rfl
    · exact (ih found).trans (List.suffix_cons _ _)

section

variable (alone : StandsAlone style) (isMask : IsMask mask)

include alone isMask

omit alone in
/-- What is behind a closing quotation mark. -/
theorem Tracks.behindQuote (tracks : Tracks style mask text masked) {quote : Char}
    (apart : Char.isWord quote = false) (unmarked : quote ≠ '#') :
    Option.Rel (Tracks style mask) (behindQuote? quote false text)
      (behindQuote? quote false masked) := by
  rw [tracks.aligned.same, behindQuote?_maskWith isMask apart unmarked]
  cases found : behindQuote? quote false text with
  | none => exact .none
  | some rest =>
    have stood := suffix_of_behindQuote? found
    exact .some (tracks_behind apart (stood.trans tracks.suffix) ⟨rfl⟩)

omit alone in
theorem Tracks.behindBracket (tracks : Tracks style mask text masked) :
    SameAttempt style mask (behindBracket text) (behindBracket masked) := by
  have passes : PassesWords (· != ')') := passesWords_bne (by decide) (by decide)
  have left := (tracks.aligned.span isMask passes).2
  have stood := (List.dropWhile_suffix (l := text) (· != ')')).trans tracks.suffix
  have head := List.head?_dropWhile_not (· != ')') text
  unfold Svg.behindBracket
  generalize text.dropWhile (· != ')') = rest at left stood head
  generalize masked.dropWhile (· != ')') = rest' at left
  obtain rfl := left.same
  cases rest with
  | nil =>
    rw [maskWith_nil]
    exact ⟨rfl, tracks_nil⟩
  | cons c rest =>
    obtain rfl : c = ')' := by simpa using head
    rw [maskWith_cons (by decide)]
    exact ⟨rfl, tracks_behind (by decide) stood ⟨rfl⟩⟩

/-! ### Terms -/

/-- A name, perhaps with brackets. -/
theorem Tracks.call (tracks : Tracks style mask text masked) (head : text.head? = masked.head?) :
    SameAttempt style mask (call text) (call masked) := by
  obtain ⟨attempt, -, -⟩ := tracks.identifier alone isMask head
  have bracket := attempt.rest.alongside.head?_eq_iff isMask (c := '(') (by decide) (by decide)
  rw [call_eq, call_eq, attempt.found]
  by_cases called : (Svg.identifier masked).found = true ∧
      (Svg.identifier text).rest.head? = some '('
  · rw [if_pos called, if_pos ⟨called.1, bracket.mp called.2⟩]
    obtain ⟨inner, rest⟩ := List.head?_eq_some_iff.mp called.2
    have left := attempt.rest
    rw [rest] at left ⊢
    obtain ⟨inner', rest', behind⟩ := left.cons alone isMask (by decide)
    rw [rest']
    exact behind.behindBracket isMask
  · rw [if_neg called, if_neg (mt (And.imp_right bracket.mpr) called)]
    exact attempt

/-- The unit of a number. -/
theorem Tracks.behindUnit (tracks : Tracks style mask text masked)
    (head : text.head? = masked.head?) :
    Tracks style mask (behindUnit text) (behindUnit masked) := by
  rw [behindUnit_eq, behindUnit_eq, head]
  split
  · next percent =>
    obtain ⟨rest', rfl⟩ := List.head?_eq_some_iff.mp percent
    obtain ⟨rest, rfl, behind⟩ := tracks.uncons alone isMask (by decide)
    exact behind
  · exact (tracks.identifier alone isMask head).attempt.rest

/-- The digits of a number, a point among them, and its unit. -/
theorem Tracks.behindNumber (tracks : Tracks style mask text masked)
    (head : text.head? = masked.head?) :
    Tracks style mask (behindNumber text) (behindNumber masked) := by
  have digits {text masked : Text} (tracks : Tracks style mask text masked)
      (head : text.head? = masked.head?) :=
    tracks.run alone isMask (p := Char.isDigit) (fun _ => joinsAhead_of_isDigit) head
  obtain ⟨-, left, head⟩ := digits tracks head
  rw [behindNumber_eq, behindNumber_eq, head]
  split
  · next point =>
    rw [point] at head
    obtain ⟨fraction', rest'⟩ := List.head?_eq_some_iff.mp point
    rw [rest'] at left ⊢
    obtain ⟨fraction, rest, behind⟩ := left.uncons alone isMask (by decide)
    rw [rest]
    obtain ⟨-, last, head⟩ := digits behind
      (behind.head?_eq alone isMask (c := '.') (by decide) (rest ▸ left.suffix))
    exact last.behindUnit alone isMask head
  · exact left.behindUnit alone isMask head

/-- A colour or a name behind a number sign. -/
theorem Tracks.behindHash (tracks : Tracks style mask text masked)
    (head : text.head? = masked.head?) :
    Tracks style mask (behindHash text) (behindHash masked) := by
  obtain ⟨attempt, -, head⟩ := tracks.identifier alone isMask head
  rw [behindHash_eq, behindHash_eq, attempt.found]
  split
  · exact attempt.rest
  · exact (attempt.rest.run alone isMask (p := Char.isHexDigit)
      (fun _ hex => joinsAhead_of_isAlphanum (Text.isAlphanum_of_isHexDigit hex)) head).2.1

end

/-- A masking colour that is read as a number sign with an identifier. -/
structure IsHashed (mask : Text) : Prop extends IsMask mask where
  identifier : ∃ first digits, mask = '#' :: first :: digits ∧ isIdentifierStart first = true ∧
    ∀ c ∈ digits, isIdentifierPart c = true

/-- A masking colour is a hash and six digits. -/
theorem isHashed_maskColor {green : Nat} (byte : green < 256) : IsHashed (maskColor green) := by
  have parts := forall_mem_maskColor (p := isIdentifierPart) (by decide) byte
  exact ⟨isMask_maskColor byte, 'f', _, rfl, rfl, fun c member =>
    parts c (List.mem_cons_of_mem _ member)⟩

section

variable (alone : StandsAlone style) (isHashed : IsHashed mask)

include alone isHashed

/-- The word is a term, and so is the masking colour. -/
theorem term_word (named : isCurrentColor word = true) (stood : word ++ rest <:+ style)
    (behind : Tracks style mask rest masked) :
    SameAttempt style mask (term (word ++ rest)) (term (mask ++ masked)) := by
  have joins {c : Char} {others : Text} (split : rest = c :: others) : joinsBehind c = false := by
    obtain ⟨before, whole⟩ := stood
    exact alone.behind before word c others (split ▸ whole.symm) named
  have source : term (word ++ rest) = ⟨true, rest⟩ := by
    have called : call (word ++ rest) = ⟨true, rest⟩ := by
      rw [call_eq, identifier_word alone named stood, if_neg]
      rintro ⟨-, bracket⟩
      obtain ⟨others, split⟩ := List.head?_eq_some_iff.mp bracket
      exact absurd (joins split) (by decide)
    obtain ⟨letter, others, rfl, isLetter⟩ := exists_letter_of_isCurrentColor named
    rw [List.cons_append] at called ⊢
    rw [← called]
    rcases isLetter with rfl | rfl <;> rfl
  have target : term (mask ++ masked) = ⟨true, masked⟩ := by
    obtain ⟨first, digits, rfl, start, parts⟩ := isHashed.identifier
    have ends : masked.dropWhile isIdentifierPart = masked := by
      rcases behind.next alone isHashed.toIsMask with
        ⟨-, rfl⟩ | ⟨c, others, others', split, rfl, -⟩ | ⟨_, _, others', -, -, rfl, -⟩
      · rfl
      · have apart := joins split
        simp only [joinsBehind, Bool.or_eq_false_iff] at apart
        rw [List.dropWhile_cons_of_neg (by simp [apart.1.2])]
      · rfl
    have other : first ≠ '-' := by
      rintro rfl
      cases start
    have named : identifier (first :: (digits ++ masked)) = ⟨true, masked⟩ := by
      rw [identifier_cons other, if_pos start, List.dropWhile_append_of_pos parts, ends]
    show (⟨true, behindHash (first :: (digits ++ masked))⟩ : Attempt) = _
    rw [behindHash_eq, named, if_pos rfl]
  rw [source, target]
  exact ⟨rfl, behind⟩

/-- **A term** is read in both styles or in none, and the word is one as the masking colour is. -/
theorem Tracks.term (tracks : Tracks style mask text masked) :
    SameAttempt style mask (term text) (term masked) := by
  have isMask := isHashed.toIsMask
  rcases tracks.next alone isMask with
    ⟨rfl, rfl⟩ | ⟨c, text, masked, rfl, rfl, behind⟩ | ⟨word, rest, masked', named, rfl, rfl, behind⟩
  · exact ⟨rfl, tracks⟩
  · have head (joins : joinsAhead c = true) : text.head? = masked.head? :=
      behind.head?_eq alone isMask joins tracks.suffix
    have digits : Tracks style mask (text.dropWhile Char.isDigit) (masked.dropWhile Char.isDigit) :=
      (behind.skip alone isMask (p := Char.isDigit) ⟨rfl, rfl, rfl⟩).2
    have goes : goesOnWithNumber text = goesOnWithNumber masked :=
      behind.alongside.head?_eq isMask ⟨rfl, rfl, rfl⟩
    rw [Svg.term, Svg.term, goes]
    split
    · next hash => exact ⟨rfl, behind.behindHash alone isMask (head (hash ▸ rfl))⟩
    split
    · exact ⟨rfl, digits⟩
    split
    · exact ⟨rfl, behind⟩
    split
    · next point =>
      obtain ⟨-, left, head⟩ := behind.run alone isMask (p := Char.isDigit)
        (fun _ => joinsAhead_of_isDigit) (head (point ▸ rfl))
      exact ⟨rfl, left.behindUnit alone isMask head⟩
    split
    · next number =>
      refine ⟨rfl, behind.behindNumber alone isMask (head ?_)⟩
      rcases Bool.or_eq_true_iff.mp number with digit | minus
      · exact joinsAhead_of_isDigit digit
      · have hyphen : c = '-' := of_decide_eq_true (Bool.and_eq_true_iff.mp minus).1
        exact hyphen ▸ rfl
    split
    · next quoted =>
      have apart : Char.isWord c = false ∧ c ≠ '#' := by
        rcases (by simpa using quoted : c = '"' ∨ c = '\'') with rfl | rfl <;> decide
      have closed := behind.behindQuote isMask apart.1 apart.2
      generalize behindQuote? c false text = one at closed
      generalize behindQuote? c false masked = other at closed
      cases closed with
      | none => exact ⟨rfl, tracks_nil⟩
      | some closed => exact ⟨rfl, closed⟩
    · exact tracks.call alone isMask rfl
  · exact term_word alone isHashed named tracks.suffix behind

end

end IconComponents.Svg
