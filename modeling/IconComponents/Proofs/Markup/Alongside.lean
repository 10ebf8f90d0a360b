/-
**Reading a masked text alongside the text.**

Whoever reads a masked text from left to right is, at every place, either where a place of the text
was masked from, or within a word that is kept. The two texts then agree in the next character, or
the masked one goes on with the mark of the masking colour.

* `Aligned`, `WithinWord`, `Alongside` — a place of the masked text and the one of the text;
* `Alongside.cons` — the next character;
* `Alongside.span`, `Alongside.cut?`, `Alongside.after?` — what is read up to a character, up to a mark,
  and what is read of given words.
-/

import IconComponents.Proofs.Markup.Mask
import IconComponents.Text.Blank

namespace IconComponents

variable {mask text masked word rest needle : Text} {c : Char} {p : Char → Bool}

/-- The masked text is masked from this place of the text on. -/
structure Aligned (mask text masked : Text) : Prop where
  same : masked = maskWith mask text

/-- The place is within a word that is kept. -/
structure WithinWord (mask text masked : Text) : Prop where
  split : ∃ word rest, (∀ c ∈ word, Char.isWord c = true) ∧ Text.wordEnds rest = true ∧
    text = word ++ rest ∧ masked = word ++ maskWith mask rest

/-- The two places belong together. -/
def Alongside (mask text masked : Text) : Prop :=
  Aligned mask text masked ∨ WithinWord mask text masked

theorem Aligned.alongside (aligned : Aligned mask text masked) : Alongside mask text masked :=
  Or.inl aligned

/-- The places behind a character that both texts have. -/
structure Behind (mask : Text) (c : Char) (text masked : Text) : Prop where
  aligned : Char.isWord c = false → Aligned mask text masked
  within : Char.isWord c = true → WithinWord mask text masked

theorem Behind.alongside (behind : Behind mask c text masked) : Alongside mask text masked := by
  cases kind : Char.isWord c with
  | false => exact Or.inl (behind.aligned kind)
  | true => exact Or.inr (behind.within kind)

/-! ### The next character -/

/-- A word that is masked is read as a whole. -/
structure Swapped (mask text masked : Text) : Prop where
  split : ∃ word rest, isCurrentColor word = true ∧ Text.wordEnds rest = true ∧
    text = word ++ rest ∧ masked = mask ++ maskWith mask rest

theorem WithinWord.cons {masked' : Text} (within : WithinWord mask text (c :: masked')) :
    ∃ text', text = c :: text' ∧ Behind mask c text' masked' := by
  obtain ⟨word, rest, solid, ends, rfl, same⟩ := within
  cases word with
  | nil =>
    cases rest with
    | nil => rw [List.nil_append, maskWith_nil] at same; cases same
    | cons first rest =>
      have apart : Char.isWord first = false := by simpa [Text.wordEnds] using ends
      rw [List.nil_append, maskWith_cons apart] at same
      obtain ⟨rfl, rfl⟩ := List.cons.inj same
      refine ⟨rest, rfl, fun _ => ⟨rfl⟩, fun kind => ?_⟩
      rw [apart] at kind
      cases kind
  | cons first word =>
    obtain ⟨rfl, rfl⟩ := List.cons.inj same
    obtain ⟨kind, solid⟩ := List.forall_mem_cons.mp solid
    refine ⟨word ++ rest, rfl, fun apart => ?_, fun _ => ⟨word, rest, solid, ends, rfl, rfl⟩⟩
    rw [kind] at apart
    cases apart

theorem Aligned.cons {masked' : Text} (aligned : Aligned mask text (c :: masked')) :
    (∃ text', text = c :: text' ∧ Behind mask c text' masked') ∨
      Swapped mask text (c :: masked') := by
  have same := aligned.same
  cases text with
  | nil => rw [maskWith_nil] at same; cases same
  | cons first text =>
    cases kind : Char.isWord first with
    | false =>
      rw [maskWith_cons kind] at same
      obtain ⟨rfl, rfl⟩ := List.cons.inj same
      refine Or.inl ⟨text, rfl, fun _ => ⟨rfl⟩, fun other => ?_⟩
      rw [kind] at other
      cases other
    | true =>
      obtain ⟨hit, found⟩ : ∃ hit, wordRun (first :: text) = some hit := by
        rw [wordRun, if_pos kind]
        exact ⟨_, rfl⟩
      obtain ⟨solid, ends, split⟩ := exists_word_of_wordRun found
      rw [split, maskWith_word solid ends, maskWord] at same
      split at same
      · next named => exact Or.inr ⟨_, _, named, ends, split, same⟩
      · have within : WithinWord mask (first :: text) (c :: masked') :=
          ⟨_, _, solid.solid, ends, split, same⟩
        exact Or.inl within.cons

/-- **The next character** is the same, or it is the mark of the masking colour. -/
theorem Alongside.cons {masked' : Text} (alongside : Alongside mask text (c :: masked')) :
    (∃ text', text = c :: text' ∧ Behind mask c text' masked') ∨
      Swapped mask text (c :: masked') := by
  rcases alongside with aligned | within
  · exact aligned.cons
  · exact Or.inl within.cons

theorem Swapped.mark (isMask : IsMask mask) {masked' : Text}
    (swapped : Swapped mask text (c :: masked')) : c = '#' := by
  obtain ⟨word, rest, -, -, -, same⟩ := swapped
  obtain ⟨digits, rfl, -⟩ := isMask.shape
  exact (List.cons.inj same).1

theorem Alongside.nil (isMask : IsMask mask) (alongside : Alongside mask text []) : text = [] := by
  rcases alongside with aligned | ⟨word, rest, -, -, rfl, same⟩
  · exact (maskWith_eq_nil_iff isMask).mp aligned.same.symm
  · rw [List.nil_eq_append_iff, maskWith_eq_nil_iff isMask] at same
    obtain ⟨rfl, rfl⟩ := same
    rfl

/-- A word that is masked starts with a letter, and its mask with the mark. -/
theorem Swapped.head (isMask : IsMask mask) {masked' : Text}
    (swapped : Swapped mask text (c :: masked')) :
    c = '#' ∧ ∃ d text', text = d :: text' ∧ Char.isWord d = true := by
  refine ⟨swapped.mark isMask, ?_⟩
  obtain ⟨word, rest, named, -, rfl, -⟩ := swapped
  have solid := isSolid_of_isCurrentColor named
  obtain ⟨first, others, rfl⟩ := List.exists_cons_of_ne_nil solid.some
  exact ⟨first, others ++ rest, rfl, solid.solid first List.mem_cons_self⟩

/-- A masked text is empty exactly if the text is. -/
theorem Alongside.isEmpty_eq (isMask : IsMask mask) (alongside : Alongside mask text masked) :
    text.isEmpty = masked.isEmpty := by
  cases masked with
  | nil => rw [alongside.nil isMask]
  | cons c masked =>
    rcases alongside.cons with ⟨text', rfl, -⟩ | swapped
    · rfl
    · obtain ⟨-, d, text', rfl, -⟩ := swapped.head isMask
      rfl

/-- Both texts start with a character of no word, or none does. -/
theorem Alongside.head?_eq_iff (isMask : IsMask mask) (apart : Char.isWord c = false)
    (unmarked : c ≠ '#') (alongside : Alongside mask text masked) :
    text.head? = some c ↔ masked.head? = some c := by
  cases masked with
  | nil => rw [alongside.nil isMask]
  | cons d masked =>
    rcases alongside.cons with ⟨text', rfl, -⟩ | swapped
    · rfl
    · obtain ⟨rfl, e, text', rfl, kind⟩ := swapped.head isMask
      rw [List.head?_cons, List.head?_cons, Option.some_inj, Option.some_inj]
      refine iff_of_false ?_ unmarked.symm
      rintro rfl
      rw [apart] at kind
      cases kind

/-! ### Runs of characters -/

/-- A test that no word and no masking colour fails. -/
structure PassesWords (p : Char → Bool) : Prop where
  word : ∀ c, Char.isWord c = true → p c = true
  mark : p '#' = true

theorem passesWords_bne (apart : Char.isWord c = false) (unmarked : c ≠ '#') :
    PassesWords (· != c) := by
  refine ⟨fun d word => bne_iff_ne.mpr ?_, bne_iff_ne.mpr unmarked.symm⟩
  rintro rfl
  rw [apart] at word
  cases word

theorem PassesWords.and {q : Char → Bool} (first : PassesWords p) (second : PassesWords q) :
    PassesWords fun c => p c && q c :=
  ⟨fun c word => Bool.and_eq_true_iff.mpr ⟨first.word c word, second.word c word⟩,
    Bool.and_eq_true_iff.mpr ⟨first.mark, second.mark⟩⟩

theorem PassesWords.maskWord (isMask : IsMask mask) (passes : PassesWords p)
    (solid : IsSolid word) : ∀ c ∈ maskWord mask word, p c = true := by
  intro c member
  unfold IconComponents.maskWord at member
  split at member
  · rcases isMask.mem member with rfl | solid'
    · exact passes.mark
    · exact passes.word c solid'
  · exact passes.word c (solid.solid c member)

theorem wordEnds_takeWhile (ends : Text.wordEnds rest = true) :
    Text.wordEnds (rest.takeWhile p) = true := by
  cases rest with
  | nil => rfl
  | cons c rest =>
    rw [List.takeWhile_cons]
    split
    · exact ends
    · rfl

/-- A span that passes words is the same when masked. -/
theorem maskWith_span (isMask : IsMask mask) (passes : PassesWords p) (text : Text) :
    (maskWith mask text).takeWhile p = maskWith mask (text.takeWhile p) ∧
      (maskWith mask text).dropWhile p = maskWith mask (text.dropWhile p) := by
  induction text using word_induction with
  | nil => simp
  | apart c text apart ih =>
    rw [maskWith_cons apart, List.takeWhile_cons, List.takeWhile_cons, List.dropWhile_cons,
      List.dropWhile_cons]
    split
    · rw [ih.1, ih.2, maskWith_cons apart]
      exact ⟨rfl, rfl⟩
    · rw [maskWith_nil, maskWith_cons apart]
      exact ⟨rfl, rfl⟩
  | word word rest solid ends ih =>
    have passed : ∀ c ∈ word, p c = true := fun c member => passes.word c (solid.solid c member)
    have passed' := passes.maskWord isMask solid
    rw [maskWith_word solid ends, List.takeWhile_append_of_pos passed',
      List.takeWhile_append_of_pos passed, List.dropWhile_append_of_pos passed',
      List.dropWhile_append_of_pos passed, ih.1, ih.2, maskWith_word solid (wordEnds_takeWhile ends)]
    exact ⟨rfl, rfl⟩

/-- What is read up to a character. -/
theorem Aligned.span (isMask : IsMask mask) (passes : PassesWords p)
    (aligned : Aligned mask text masked) :
    Aligned mask (text.takeWhile p) (masked.takeWhile p) ∧
      Aligned mask (text.dropWhile p) (masked.dropWhile p) := by
  obtain rfl := aligned.same
  obtain ⟨taken, left⟩ := maskWith_span isMask passes text
  exact ⟨⟨taken⟩, ⟨left⟩⟩

/-- Spans that pass words end at the same places. -/
theorem Alongside.span (isMask : IsMask mask) (passes : PassesWords p)
    (alongside : Alongside mask text masked) :
    Alongside mask (text.takeWhile p) (masked.takeWhile p) ∧
      Aligned mask (text.dropWhile p) (masked.dropWhile p) := by
  rcases alongside with aligned | ⟨word, rest, solid, ends, rfl, rfl⟩
  · obtain ⟨taken, left⟩ := aligned.span isMask passes
    exact ⟨Or.inl taken, left⟩
  · have passed : ∀ c ∈ word, p c = true := fun c member => passes.word c (solid c member)
    have aligned : Aligned mask rest (maskWith mask rest) := ⟨rfl⟩
    obtain ⟨taken, left⟩ := aligned.span isMask passes
    rw [List.takeWhile_append_of_pos passed, List.takeWhile_append_of_pos passed,
      List.dropWhile_append_of_pos passed, List.dropWhile_append_of_pos passed, taken.same]
    exact ⟨Or.inr ⟨word, _, solid, wordEnds_takeWhile ends, rfl, rfl⟩, left⟩

theorem isWord_of_isSpace (space : Char.isSpace c = true) : Char.isWord c = false := by
  simp only [Char.isSpace, Bool.or_eq_true, decide_eq_true_eq, or_assoc] at space
  rcases space with rfl | rfl | rfl | rfl <;> decide

/-- White space is passed over in both texts. -/
theorem Alongside.skipSpace (isMask : IsMask mask) (alongside : Alongside mask text masked) :
    Alongside mask (Text.skipSpace text) (Text.skipSpace masked) := by
  induction masked generalizing text with
  | nil =>
    obtain rfl := alongside.nil isMask
    exact alongside
  | cons c masked ih =>
    unfold Text.skipSpace at ih ⊢
    have next := alongside.cons
    cases space : Char.isSpace c with
    | true =>
      rw [List.dropWhile_cons, space, if_pos rfl]
      rcases next with ⟨text', rfl, behind⟩ | swapped
      · rw [List.dropWhile_cons, space, if_pos rfl]
        exact ih behind.alongside
      · rw [swapped.mark isMask] at space
        exact absurd space (by decide)
    | false =>
      rw [List.dropWhile_cons, space, if_neg Bool.false_ne_true]
      rcases next with ⟨text', rfl, -⟩ | swapped
      · rwa [List.dropWhile_cons, space, if_neg Bool.false_ne_true]
      · obtain ⟨-, d, text', rfl, kind⟩ := swapped.head isMask
        rw [List.dropWhile_cons, if_neg]
        · exact alongside
        · intro space'
          rw [isWord_of_isSpace space'] at kind
          cases kind

/-! ### Given words -/

/-- Whether a text that starts with given words can be masked at its front. -/
def couldBeMasked (needle : Text) : Bool :=
  (Text.lower needle).isPrefixOf (Text.lower currentColor) ||
    (Text.lower currentColor).isPrefixOf (Text.lower needle)

/-- Whether given words are the same in a masked text, also within a word. -/
def isKept (inside : Bool) : Text → Bool
  | [] => true
  | c :: needle =>
    c != '#' && (inside || !couldBeMasked (c :: needle)) && isKept (Char.isWord c) needle

theorem after?_eq_none_of_named (named : isCurrentColor word = true)
    (safe : couldBeMasked needle = false) : Text.after? needle (word ++ rest) = none := by
  rw [couldBeMasked, Bool.or_eq_false_iff] at safe
  have lower := lower_of_isCurrentColor named
  rw [← Option.not_isSome_iff_eq_none, Option.isSome_iff_exists]
  rintro ⟨behind, found⟩
  have split := Text.after?_eq_some_iff.mp found
  rcases List.append_eq_append_iff.mp split with ⟨gap, same, -⟩ | ⟨gap, same, -⟩
  · have start : Text.lower word <+: Text.lower needle := by
      rw [same]
      exact (List.prefix_append _ _).map _
    rw [lower, ← List.isPrefixOf_iff_prefix, safe.2] at start
    cases start
  · have start : Text.lower needle <+: Text.lower word := by
      rw [same]
      exact (List.prefix_append _ _).map _
    rw [lower, ← List.isPrefixOf_iff_prefix, safe.1] at start
    cases start

/-- **Given words** are read in both texts or in none. -/
theorem Alongside.after? (isMask : IsMask mask) {inside : Bool} (kept : isKept inside needle = true)
    (alongside : Alongside mask text masked)
    (within : inside = true → WithinWord mask text masked) :
    Option.Rel (Alongside mask) (Text.after? needle text) (Text.after? needle masked) := by
  induction needle generalizing inside text masked with
  | nil => exact .some alongside
  | cons n needle ih =>
    simp only [isKept, Bool.and_eq_true, bne_iff_ne, Bool.or_eq_true, Bool.not_eq_true'] at kept
    obtain ⟨⟨unmarked, safe⟩, kept⟩ := kept
    cases masked with
    | nil =>
      obtain rfl := alongside.nil isMask
      exact .none
    | cons c masked =>
      have next : (∃ text', text = c :: text' ∧ Behind mask c text' masked) ∨
          inside = false ∧ Swapped mask text (c :: masked) := by
        cases inside with
        | true => exact Or.inl (within rfl).cons
        | false => exact alongside.cons.imp_right fun swapped => ⟨rfl, swapped⟩
      rcases next with ⟨text', rfl, behind⟩ | ⟨rfl, swapped⟩
      · rw [Text.after?, Text.after?]
        split
        · next same =>
          subst same
          exact ih kept behind.alongside behind.within
        · exact .none
      · have mark := swapped.mark isMask
        obtain ⟨word, rest, named, -, rfl, -⟩ := swapped
        rw [after?_eq_none_of_named named (by simpa using safe), Text.after?,
          if_neg (mark ▸ unmarked)]
        exact .none

/-! ### Up to a mark -/

/-- A mark that is made of neither words nor the masking colour. -/
structure IsApart (needle : Text) : Prop where
  some : needle ≠ []
  apart : ∀ c ∈ needle, Char.isWord c = false ∧ c ≠ '#'

theorem IsApart.of_all {needle : Text} (some : needle ≠ [])
    (all : needle.all (fun c => decide (Char.isWord c = false ∧ c ≠ '#')) = true) :
    IsApart needle :=
  ⟨some, Text.forall_mem_of_all all⟩

/-- A masked word starts with the word or with the mark. -/
theorem maskWord_head (isMask : IsMask mask) (solid : IsSolid word) :
    ∀ c ∈ maskWord mask word, c = '#' ∨ Char.isWord c = true := by
  intro c member
  unfold maskWord at member
  split at member
  · exact isMask.mem member
  · exact Or.inr (solid.solid c member)

/-- A mark does not start within what it does not hold. -/
theorem cut?_append {stretch : Text} (foreign : ∀ c ∈ stretch, c ∉ needle) (nonempty : needle ≠ [])
    (rest : Text) : Text.cut? needle (stretch ++ rest) =
      (Text.cut? needle rest).map fun (before, behind) => (stretch ++ before, behind) := by
  induction stretch with
  | nil => cases found : Text.cut? needle rest <;> simp [found]
  | cons c stretch ih =>
    obtain ⟨other, foreign⟩ := List.forall_mem_cons.mp foreign
    obtain ⟨n, needle, rfl⟩ := List.exists_cons_of_ne_nil nonempty
    rw [List.mem_cons, not_or] at other
    rw [List.cons_append, Text.cut?, Text.after?, if_neg (Ne.symm other.1), ih foreign,
      Option.map_map]
    rfl

/-- A needle that is no part of words is at the same places. -/
theorem after?_maskWith (isMask : IsMask mask)
    (apart : ∀ c ∈ needle, Char.isWord c = false ∧ c ≠ '#') (text : Text) :
    Text.after? needle (maskWith mask text) = (Text.after? needle text).map (maskWith mask) := by
  induction needle generalizing text with
  | nil => rfl
  | cons n needle ih =>
    obtain ⟨⟨kind, unmarked⟩, apart⟩ := List.forall_mem_cons.mp apart
    have absent {stretch : Text} (nonempty : stretch ≠ [])
        (foreign : ∀ c ∈ stretch, c = '#' ∨ Char.isWord c = true) (rest : Text) :
        Text.after? (n :: needle) (stretch ++ rest) = none := by
      obtain ⟨c, stretch, rfl⟩ := List.exists_cons_of_ne_nil nonempty
      rw [List.cons_append, Text.after?, if_neg]
      rintro rfl
      rcases foreign n List.mem_cons_self with rfl | word
      · exact unmarked rfl
      · rw [kind] at word
        cases word
    induction text using word_induction with
    | nil => rw [maskWith_nil]; rfl
    | apart c text other _ =>
      rw [maskWith_cons other, Text.after?, Text.after?]
      split
      · exact ih apart text
      · rfl
    | word word rest solid ends _ =>
      have foreign := maskWord_head isMask solid
      rw [maskWith_word solid ends, absent ?_ foreign,
        absent solid.some fun c member => Or.inr (solid.solid c member), Option.map_none]
      unfold maskWord
      split
      · exact isMask.some
      · exact solid.some

/-- **What is read up to a mark** is masked, and so is what is behind the mark. -/
theorem cut?_maskWith (isMask : IsMask mask) (isApart : IsApart needle) (text : Text) :
    Text.cut? needle (maskWith mask text) =
      (Text.cut? needle text).map (Prod.map (maskWith mask) (maskWith mask)) := by
  obtain ⟨nonempty, apart⟩ := isApart
  induction text using word_induction with
  | nil => rw [maskWith_nil, Text.cut?, if_neg nonempty, Option.map_none]
  | apart c text other ih =>
    have start := after?_maskWith isMask apart (c :: text)
    rw [maskWith_cons other] at start
    rw [maskWith_cons other, Text.cut?, Text.cut?, start]
    cases Text.after? needle (c :: text) with
    | some rest => simp only [Option.map_some, Prod.map_apply, maskWith_nil]
    | none =>
      simp only [Option.map_none, ih, Option.map_map]
      refine congrArg (Option.map · _) (funext fun parts => ?_)
      simp only [Function.comp_apply, Prod.map, maskWith_cons other]
  | word word rest solid ends ih =>
    have foreign : ∀ c, c = '#' ∨ Char.isWord c = true → c ∉ needle := by
      rintro c kind member
      obtain ⟨other, unmarked⟩ := apart c member
      rcases kind with rfl | word
      · exact unmarked rfl
      · rw [other] at word
        cases word
    rw [maskWith_word solid ends,
      cut?_append (fun c member => foreign c (maskWord_head isMask solid c member)) nonempty,
      cut?_append (fun c member => foreign c (Or.inr (solid.solid c member))) nonempty, ih]
    cases found : Text.cut? needle rest with
    | none => rfl
    | some parts =>
      obtain ⟨before, behind⟩ := parts
      have ends' : Text.wordEnds before = true := by
        have split := Text.eq_append_of_cut? found
        cases before with
        | nil => rfl
        | cons c before => rw [split] at ends; exact ends
      simp only [Option.map_some, Prod.map_apply, maskWith_word solid ends']

/-- What is read up to a mark, and what is behind it. -/
theorem Alongside.cut? (isMask : IsMask mask) (isApart : IsApart needle)
    (alongside : Alongside mask text masked) :
    Option.Rel (fun parts parts' => Alongside mask parts.1 parts'.1 ∧ Aligned mask parts.2 parts'.2)
      (Text.cut? needle text) (Text.cut? needle masked) := by
  rcases alongside with aligned | ⟨word, rest, solid, ends, rfl, rfl⟩
  · rw [aligned.same, cut?_maskWith isMask isApart]
    cases found : Text.cut? needle text with
    | none => exact .none
    | some found' => exact .some ⟨Or.inl ⟨rfl⟩, ⟨rfl⟩⟩
  · have foreign : ∀ c ∈ word, c ∉ needle := by
      intro c member within
      have apart := (isApart.apart c within).1
      rw [solid c member] at apart
      cases apart
    rw [cut?_append foreign isApart.some, cut?_append foreign isApart.some,
      cut?_maskWith isMask isApart]
    cases found : Text.cut? needle rest with
    | none => exact .none
    | some found' =>
      obtain ⟨before, behind⟩ := found'
      refine .some ⟨Or.inr ⟨word, before, solid, ?_, rfl, rfl⟩, ⟨rfl⟩⟩
      cases before with
      | nil => rfl
      | cons c before => rw [Text.eq_append_of_cut? found] at ends; exact ends

/-! ### Names -/

/-- **What is read of a name** is the same in both texts, unless it is cut off by a masking
colour. -/
theorem Alongside.takeWhile (isMask : IsMask mask) (unmarked : p '#' = false)
    (alongside : Alongside mask text masked) :
    (∃ rest, text = masked.takeWhile p ++ rest ∧ Swapped mask rest (masked.dropWhile p)) ∨
      text.takeWhile p = masked.takeWhile p ∧
        Alongside mask (text.dropWhile p) (masked.dropWhile p) := by
  induction masked generalizing text with
  | nil =>
    obtain rfl := alongside.nil isMask
    exact Or.inr ⟨rfl, alongside⟩
  | cons c masked ih =>
    rcases alongside.cons with ⟨text', rfl, behind⟩ | swapped
    · cases kept : p c with
      | false =>
        simp only [List.takeWhile_cons, List.dropWhile_cons, kept, Bool.false_eq_true, if_false]
        exact Or.inr ⟨trivial, alongside⟩
      | true =>
        simp only [List.takeWhile_cons, List.dropWhile_cons, kept, if_true]
        rcases ih behind.alongside with ⟨rest, rfl, swapped⟩ | ⟨same, rest⟩
        · exact Or.inl ⟨rest, rfl, swapped⟩
        · exact Or.inr ⟨by rw [same], rest⟩
    · obtain rfl := swapped.mark isMask
      simp only [List.takeWhile_cons, List.dropWhile_cons, unmarked, Bool.false_eq_true, if_false]
      exact Or.inl ⟨text, rfl, swapped⟩

/-! ### All characters -/

/-- What no letter of `currentColor` fails, no character fails that is masked. -/
theorem forall_of_maskWith (letters : ∀ c, c.toLower ∈ Text.lower currentColor → p c = true)
    (passed : ∀ c ∈ maskWith mask text, p c = true) : ∀ c ∈ text, p c = true := by
  induction text using word_induction with
  | nil => exact fun _ member => absurd member List.not_mem_nil
  | apart c text apart ih =>
    rw [maskWith_cons apart, List.forall_mem_cons] at passed
    exact List.forall_mem_cons.mpr ⟨passed.1, ih passed.2⟩
  | word word rest solid ends ih =>
    rw [maskWith_word solid ends, List.forall_mem_append] at passed
    refine List.forall_mem_append.mpr ⟨?_, ih passed.2⟩
    have kept := passed.1
    unfold maskWord at kept
    split at kept
    · next named =>
      intro c member
      refine letters c ?_
      rw [← lower_of_isCurrentColor named]
      exact List.mem_map_of_mem member
    · exact kept

theorem Alongside.forall (letters : ∀ c, c.toLower ∈ Text.lower currentColor → p c = true)
    (alongside : Alongside mask text masked) (passed : ∀ c ∈ masked, p c = true) :
    ∀ c ∈ text, p c = true := by
  rcases alongside with aligned | ⟨word, rest, -, -, rfl, rfl⟩
  · exact forall_of_maskWith letters (aligned.same ▸ passed)
  · rw [List.forall_mem_append] at passed ⊢
    exact passed.imp_right (forall_of_maskWith letters)

/-- A last character that is in no word stays the last one. -/
theorem Alongside.getLast? (apart : Char.isWord c = false) (alongside : Alongside mask text masked)
    (last : text.getLast? = some c) : masked.getLast? = some c := by
  obtain ⟨before, rfl⟩ := List.getLast?_eq_some_iff.mp last
  have behind (before : Text) : (maskWith mask (before ++ [c])).getLast? = some c := by
    rw [maskWith_append_cons apart, maskWith_nil]
    exact List.getLast?_concat
  rcases alongside with aligned | ⟨word, rest, solid, -, same, rfl⟩
  · rw [aligned.same]
    exact behind before
  · rcases List.eq_nil_or_concat rest with rfl | ⟨rest, other, rfl⟩
    · rw [List.append_nil] at same
      have kind := solid c (same ▸ List.mem_append_right _ List.mem_cons_self)
      rw [apart] at kind
      cases kind
    · rw [List.concat_eq_append, ← List.append_assoc] at same
      obtain ⟨-, same⟩ := List.append_inj' same rfl
      obtain rfl := (List.cons.inj same).1
      rw [List.concat_eq_append, List.getLast?_append, behind]
      rfl

end IconComponents
