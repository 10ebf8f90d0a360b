/-
**The front of a masked document.**

What stands before the root is read in the masked document as in the document, declaration by
declaration. What entities stand for is not compared, since nothing refers to them.

* `tracks_instruction` — the one place where the masking colour can cut off a name;
* `tracks_rawAttribute` — an attribute, with its value masked;
* `tracks_front` — all that stands before the root.
-/

import IconComponents.Proofs.Xml.Tracking
import IconComponents.Xml.DocumentType

namespace IconComponents.Xml.Reader

variable {α : Type} {mask text masked place place' : Text}

/-! ### Comments and instructions -/

/-- Comments end at the same places. -/
theorem tracks_comment (isMask : IsMask mask) :
    Tracks never (Alongside mask) (comment place) (comment place') fun _ _ => Aligned mask := by
  refine (tracks_wordsUpTo isMask (.of_all (by decide) rfl)).bind fun words words' =>
    tracks_of fun alongside => ?_
  have hyphens := contains_eq isMask (.of_all (by decide) rfl : IsApart "--".toList) alongside
  by_cases refused : Text.contains words' "--".toList || words'.getLast? = some '-'
  · rw [if_pos refused]
    exact tracks_fail
  · rw [if_neg refused, if_neg]
    · exact tracks_pure fun _ _ aligned => aligned
    · simp only [Bool.or_eq_true, decide_eq_true_eq, not_or] at refused ⊢
      rw [hyphens]
      exact ⟨refused.1, fun last => refused.2 (alongside.getLast? (by decide) last)⟩

/-- What a reader finds in a text, and what it leaves. -/
def Reads (reader : Reader α) (text : Text) (value : α) (rest : Text) : Prop :=
  ∃ found, reader text = .ok found ∧ found.value = value ∧ found.rest = rest

/-- What is read of the masked text has its counterpart in the text. -/
theorem Tracks.reads {reader reader' : Reader α} {before : Text → Text → Prop}
    {after : α → α → Text → Text → Prop} {value' : α} {rest' : Text}
    (tracks : Tracks never before reader reader' after) (places : before text masked)
    (reads : Reads reader' masked value' rest') :
    ∃ value rest, Reads reader text value rest ∧ after value value' rest rest' := by
  obtain ⟨found', succeeded, rfl, rfl⟩ := reads
  obtain ⟨found, read, related⟩ := tracks.found places succeeded
  exact ⟨_, _, ⟨found, read, rfl, rfl⟩, related⟩

/-- Readers track each other if all that is read has a counterpart. -/
theorem tracks_of_reads {reader reader' : Reader α} {before : Text → Text → Prop}
    {after : α → α → Text → Text → Prop}
    (reads : ∀ text masked value' rest', before text masked → Reads reader' masked value' rest' →
      ∃ value rest, Reads reader text value rest ∧ after value value' rest rest') :
    Tracks never before reader reader' after := by
  intro text masked places found' succeeded
  obtain ⟨_, _, ⟨found, read, rfl, rfl⟩, related⟩ :=
    reads text masked _ _ places ⟨found', succeeded, rfl, rfl⟩
  exact Or.inl ⟨found, read, related⟩

theorem reads_bind_iff {β : Type} {reader : Reader α} {next : α → Reader β} {value : β}
    {rest : Text} : Reads (reader >>= next) text value rest ↔
      ∃ first left, Reads reader text first left ∧ Reads (next first) left value rest := by
  constructor
  · rintro ⟨found, succeeded, rfl, rfl⟩
    obtain ⟨one, read, two, readNext, value, rest⟩ := bind_eq_ok.mp succeeded
    exact ⟨_, _, ⟨one, read, rfl, rfl⟩, two, readNext, value.symm, rest.symm⟩
  · rintro ⟨_, _, ⟨one, read, rfl, rfl⟩, two, readNext, rfl, rfl⟩
    exact ⟨⟨two.value, two.rest, two.suffix.trans one.suffix⟩,
      bind_eq_ok.mpr ⟨one, read, two, readNext, rfl, rfl⟩, rfl, rfl⟩

theorem reads_pure_iff {value value' : α} {rest : Text} :
    Reads (pure value) text value' rest ↔ value = value' ∧ text = rest := by
  constructor
  · rintro ⟨found, succeeded, rfl, rfl⟩
    cases succeeded
    exact ⟨rfl, rfl⟩
  · rintro ⟨rfl, rfl⟩
    exact ⟨_, rfl, rfl, rfl⟩

theorem not_reads_fail {fault : Fault} {value : α} {rest : Text} :
    ¬ Reads (fail fault place) text value rest := by
  rintro ⟨found, failed, -, -⟩
  cases failed

theorem reads_wordsUpTo_iff {mark words rest : Text} :
    Reads (wordsUpTo mark) text words rest ↔
      Text.cut? mark text = some (words, rest) ∧ ∀ c ∈ words, isDocumentChar c = true := by
  constructor
  · rintro ⟨found, succeeded, rfl, rfl⟩
    exact of_wordsUpTo succeeded
  · rintro ⟨cut, all⟩
    exact wordsUpTo_of cut all

/-- What an instruction is: it does not declare the document, and after a name it goes on to its end
mark. -/
structure IsInstruction (text rest : Text) : Prop where
  other : Text.startsWith text "xml ".toList = false
  named : ((text.takeWhile isNameChar).head?.any fun c => c = ':' || isNameStart c) = true
  ends : ∃ words, Text.cut? "?>".toList (Text.skipSpace (text.dropWhile isNameChar)) =
    some (words, rest) ∧ ∀ c ∈ words, isDocumentChar c = true

theorem reads_ahead_iff {value rest : Text} :
    Reads ahead text value rest ↔ value = text ∧ rest = text := by
  constructor
  · rintro ⟨found, succeeded, rfl, rfl⟩
    cases succeeded
    exact ⟨rfl, rfl⟩
  · rintro ⟨rfl, rfl⟩
    exact ⟨_, rfl, rfl, rfl⟩

theorem reads_skipSpace_iff {value : PUnit} {rest : Text} :
    Reads skipSpace text value rest ↔ rest = Text.skipSpace text := by
  constructor
  · rintro ⟨found, succeeded, -, rfl⟩
    cases succeeded
    rfl
  · rintro rfl
    exact ⟨_, rfl, rfl, rfl⟩

theorem reads_takeWhile_iff {p : Char → Bool} {value rest : Text} :
    Reads (takeWhile p) text value rest ↔ value = text.takeWhile p ∧ rest = text.dropWhile p := by
  constructor
  · rintro ⟨found, succeeded, rfl, rfl⟩
    cases succeeded
    exact ⟨rfl, rfl⟩
  · rintro ⟨rfl, rfl⟩
    exact ⟨_, rfl, rfl, rfl⟩

/-- What is read of a processing instruction. -/
theorem reads_instruction_iff {rest : Text} :
    Reads (instruction place) text ⟨⟩ rest ↔ IsInstruction text rest := by
  unfold instruction name nameParts
  simp only [reads_bind_iff, reads_ahead_iff]
  constructor
  · rintro ⟨_, _, ⟨rfl, rfl⟩, read⟩
    split at read
    · exact absurd read not_reads_fail
    · next other =>
      simp only [reads_bind_iff, reads_ahead_iff, reads_takeWhile_iff, reads_skipSpace_iff,
        reads_wordsUpTo_iff, reads_pure_iff] at read
      obtain ⟨_, _, ⟨_, _, ⟨rfl, rfl⟩, _, _, ⟨rfl, rfl⟩, named⟩, _, _, rfl, words, _, ⟨cut, all⟩, -,
        rfl⟩ := read
      split at named
      · next starts =>
        obtain ⟨-, rfl⟩ := reads_pure_iff.mp named
        exact ⟨Bool.not_eq_true _ ▸ other, starts, words, cut, all⟩
      · exact absurd named not_reads_fail
  · rintro ⟨other, named, words, cut, all⟩
    refine ⟨_, _, ⟨rfl, rfl⟩, ?_⟩
    rw [other, if_neg Bool.false_ne_true]
    simp only [reads_bind_iff, reads_ahead_iff, reads_takeWhile_iff, reads_skipSpace_iff,
      reads_wordsUpTo_iff, reads_pure_iff]
    refine ⟨text.takeWhile isNameChar, _, ⟨_, _, ⟨rfl, rfl⟩, _, _, ⟨rfl, rfl⟩, ?_⟩, ⟨⟩, _, rfl, words,
      rest, ⟨cut, all⟩, trivial, rfl⟩
    rw [if_pos named]
    exact reads_pure_iff.mpr ⟨rfl, rfl⟩

theorem isApart_instruction : IsApart "?>".toList := .of_all (by decide) rfl

/-- No letter of `currentColor` ends a name. -/
theorem isNameChar_of_letter (c : Char) (letter : c.toLower ∈ Text.lower currentColor) :
    isNameChar c = true := by
  rcases letter_cases letter with ⟨upper, -, -⟩ | small
  · have alpha : c.isAlpha = true := by
      change (c.isUpper || c.isLower) = true
      rw [upper, Bool.true_or]
    simp only [isNameChar, isNamePart, isNameStart, alpha, Bool.true_or, Bool.or_true]
  · have letters : (Text.lower currentColor).all isNameChar = true := by decide
    exact List.all_eq_true.mp letters c small

/-- A mark that ends an instruction is found behind a name and white space, too. -/
theorem cut?_behind_name {words rest : Text}
    (cut : Text.cut? "?>".toList text = some (words, rest)) :
    ∃ others, Text.cut? "?>".toList (Text.skipSpace (text.dropWhile isNameChar)) =
      some (others, rest) ∧ ∀ c ∈ others, c ∈ words := by
  have dropped {p : Char → Bool} (refused : "?>".toList.all (fun c => !p c) = true)
      {text words : Text} (cut : Text.cut? "?>".toList text = some (words, rest)) :
      ∃ others, Text.cut? "?>".toList (text.dropWhile p) = some (others, rest) ∧
        ∀ c ∈ others, c ∈ words := by
    have foreign : ∀ c ∈ text.takeWhile p, c ∉ "?>".toList := by
      intro c member within
      have other := List.all_eq_true.mp refused c within
      rw [List.mem_takeWhile_imp member] at other
      cases other
    rw [← List.takeWhile_append_dropWhile (p := p) (l := text),
      cut?_append foreign (by decide)] at cut
    obtain ⟨⟨others, rest'⟩, found, same⟩ := Option.map_eq_some_iff.mp cut
    obtain ⟨rfl, rfl⟩ := Prod.mk.inj same
    exact ⟨others, found, fun c member => List.mem_append_right _ member⟩
  obtain ⟨others, found, among⟩ := dropped (p := isNameChar) (by decide) cut
  obtain ⟨others', found', among'⟩ := dropped (p := Char.isSpace) (by decide) found
  exact ⟨others', found', fun c member => among c (among' c member)⟩

/-- A start that is passed goes on as it was. -/
theorem head?_takeWhile_append {front rest : Text} {p : Char → Bool} {holds : Char → Bool}
    (passed : ∀ c ∈ front, p c = true) (starts : front.head?.any holds = true) :
    (((front ++ rest).takeWhile p).head?.any holds) = true := by
  cases front with
  | nil => cases starts
  | cons c front =>
    rw [List.takeWhile_append_of_pos passed]
    exact starts

/-- An instruction of a masked text is one of the text. -/
theorem IsInstruction.alongside {rest' : Text} (isMask : IsMask mask)
    (alongside : Alongside mask text masked) (isInstruction : IsInstruction masked rest') :
    ∃ rest, Aligned mask rest rest' ∧ IsInstruction text rest := by
  obtain ⟨other, named, words', cut', all⟩ := isInstruction
  rw [← startsWith_eq isMask (by decide) alongside] at other
  rcases alongside.takeWhile isMask (p := isNameChar) (by decide) with
    ⟨rest, same, word, behind, current, ends, rfl, masked'⟩ | ⟨same, alongside'⟩
  · -- the name is cut off by the masking colour, and both instructions go on to the same end
    have letters : ∀ c ∈ word, isNameChar c = true := fun c member =>
      isNameChar_of_letter c (lower_of_isCurrentColor current ▸ List.mem_map_of_mem member)
    have foreign : ∀ c ∈ mask, c ∉ "?>".toList := by
      intro c member within
      obtain ⟨other, unmarked⟩ := isApart_instruction.apart c within
      rcases isMask.mem member with rfl | solid
      · exact unmarked rfl
      · rw [other] at solid
        cases solid
    have kept : Text.skipSpace (mask ++ maskWith mask behind) = mask ++ maskWith mask behind := by
      obtain ⟨digits, rfl, -⟩ := isMask.shape
      rfl
    rw [masked', kept, cut?_append foreign (by decide), cut?_maskWith isMask isApart_instruction,
      Option.map_map] at cut'
    obtain ⟨⟨words, rest⟩, cut, parts⟩ := Option.map_eq_some_iff.mp cut'
    obtain ⟨rfl, rfl⟩ := Prod.mk.inj parts
    obtain ⟨others, cut, among⟩ := cut?_behind_name cut
    rw [same] at other ⊢
    refine ⟨rest, ⟨rfl⟩, other,
      head?_takeWhile_append (fun c => List.mem_takeWhile_imp) named, others, ?_, fun c member => ?_⟩
    · rw [List.dropWhile_append_of_pos fun c => List.mem_takeWhile_imp,
        List.dropWhile_append_of_pos letters]
      exact cut
    · exact forall_of_maskWith isDocumentChar_of_letter
        (fun c member => all c (List.mem_append_right _ member)) c (among c member)
  · have related := (alongside'.skipSpace isMask).cut? isMask isApart_instruction
    rw [cut'] at related
    cases cut : Text.cut? "?>".toList (Text.skipSpace (text.dropWhile isNameChar)) with
    | none => rw [cut] at related; cases related
    | some parts =>
      rw [cut] at related
      cases related with
      | some places =>
        obtain ⟨words, aligned⟩ := places
        rw [← same] at named
        exact ⟨_, aligned, other, named, _, cut, words.forall isDocumentChar_of_letter all⟩

/-- Processing instructions end at the same places. -/
theorem tracks_instruction (isMask : IsMask mask) :
    Tracks never (Alongside mask) (instruction place) (instruction place')
      fun _ _ => Aligned mask := by
  intro text masked alongside found' succeeded
  obtain ⟨rest, aligned, isInstruction⟩ :=
    (reads_instruction_iff.mp ⟨found', succeeded, rfl, rfl⟩).alongside isMask alongside
  obtain ⟨found, read, -, rfl⟩ := reads_instruction_iff.mpr isInstruction
  exact Or.inl ⟨found, read, aligned⟩

/-- What stands beside the tree is skipped alike. -/
theorem tracks_aside (isMask : IsMask mask) :
    Tracks never (Alongside mask) aside aside (Same (Alongside mask)) := by
  unfold aside
  refine tracks_ahead.bind fun place place' => tracks_of fun _ => ?_
  refine (tracks_skip isMask (by decide)).bind fun isComment isComment' => tracks_of ?_
  rintro rfl
  split
  · refine (tracks_comment isMask).bind fun _ _ => ?_
    exact tracks_pure fun _ _ aligned => ⟨rfl, Or.inl aligned⟩
  · refine (tracks_skip isMask (by decide)).bind fun isInstruction isInstruction' => tracks_of ?_
    rintro rfl
    split
    · refine (tracks_instruction isMask).bind fun _ _ => ?_
      exact tracks_pure fun _ _ aligned => ⟨rfl, Or.inl aligned⟩
    · exact tracks_pure fun _ _ alongside => ⟨rfl, alongside⟩

/-! ### Declarations -/

/-- **An attribute** has the same name in both documents, and its value is masked. -/
theorem tracks_rawAttribute (isMask : IsMask mask) :
    Tracks never (Alongside mask) rawAttribute rawAttribute fun written written' rest rest' =>
      (written.1 = written'.1 ∧ Aligned mask written.2.1 written'.2.1) ∧ Aligned mask rest rest' := by
  unfold rawAttribute
  refine tracks_ahead.bind fun place place' => tracks_of fun _ => ?_
  refine (tracks_qualifiedName isMask).bind_refuses
    (fun _ => stopsAtMark_skipSpace.bind_refuses fun _ => (refusesMark_expect (by decide)).bind)
    fun name name' => tracks_of fun same => ?_
  refine (tracks_skipSpace isMask).bind fun _ _ => tracks_of fun _ => ?_
  refine (tracks_expect isMask (by decide) (by decide)).bind fun _ _ => tracks_of fun _ => ?_
  refine (tracks_skipSpace isMask).aligned.bind fun _ _ => tracks_of fun _ => ?_
  refine (tracks_quotationMark isMask).bind fun quote quote' => tracks_of ?_
  rintro ⟨rfl, isQuote⟩
  have passes : PassesWords fun c => c != quote && c != '<' :=
    isQuote.passesWords.and (passesWords_bne (by decide) (by decide))
  refine (tracks_wordsWhile (fun _ _ => Aligned.span isMask passes) fun _ _ => Or.inl).bind
    fun value value' => tracks_of fun taken => ?_
  refine tracks_ahead.bind fun behind behind' => tracks_of fun _ => ?_
  refine (tracks_expect isMask isQuote.apart isQuote.unmarked).aligned.bind fun _ _ => ?_
  exact tracks_pure fun _ _ places => ⟨⟨same, taken⟩, places.2⟩

theorem tracks_declarationGap (isMask : IsMask mask) :
    Tracks never (Alongside mask) declarationGap declarationGap (Same (Alongside mask)) := by
  unfold declarationGap
  refine tracks_ahead.bind fun rest rest' => tracks_of fun alongside => ?_
  rw [alongside.isEmpty_eq isMask, startsWith_eq isMask (by decide) alongside]
  split
  · exact tracks_pure fun _ _ places => ⟨rfl, places⟩
  · exact tracks_needSpace isMask

/-- Declarations end at the same places. -/
theorem tracks_declaration (isMask : IsMask mask) :
    Tracks never (Alongside mask) declaration declaration (Same (Alongside mask)) := by
  unfold declaration
  refine (tracks_skipSpace isMask).bind fun _ _ => tracks_of fun _ => ?_
  refine tracks_ahead.bind fun rest rest' => tracks_of fun alongside => ?_
  rw [startsWith_eq isMask (by decide) alongside]
  split
  · exact tracks_expectText isMask (by decide)
  · refine (tracks_rawAttribute isMask).bind fun _ _ => tracks_of fun _ => ?_
    refine (tracks_declarationGap isMask).aligned.bind fun _ _ => tracks_of fun _ => ?_
    have ends : Tracks never (Alongside mask) (do skipSpace; expectText "?>".toList)
        (do skipSpace; expectText "?>".toList) (Same (Alongside mask)) :=
      (tracks_skipSpace isMask).bind fun _ _ => tracks_of fun _ =>
        tracks_expectText isMask (by decide)
    refine tracks_ahead.bind fun encoding encoding' => tracks_of fun alongside => ?_
    rw [startsWith_eq isMask (by decide) alongside]
    have standalone : Tracks never (Alongside mask)
        (do
          if Text.startsWith (← ahead) "standalone".toList then
            let _ ← rawAttribute
          skipSpace
          expectText "?>".toList)
        (do
          if Text.startsWith (← ahead) "standalone".toList then
            let _ ← rawAttribute
          skipSpace
          expectText "?>".toList) (Same (Alongside mask)) := by
      refine tracks_ahead.bind fun standalone standalone' => tracks_of fun alongside => ?_
      rw [startsWith_eq isMask (by decide) alongside]
      split
      · exact (tracks_rawAttribute isMask).bind fun _ _ => tracks_of fun _ => ends.aligned
      · exact ends
    dsimp only
    split
    · refine (tracks_rawAttribute isMask).bind fun _ _ => tracks_of fun _ => ?_
      exact (tracks_declarationGap isMask).aligned.bind fun _ _ => tracks_of fun _ => standalone
    · exact standalone

/-- What is quoted behind white space is passed over. -/
theorem tracks_quoted {β : Type} {next next' : Reader β} {after : β → β → Text → Text → Prop}
    (isMask : IsMask mask) (behind : Tracks never (Alongside mask) next next' after) :
    Tracks never (Alongside mask)
      (do
        needSpace
        let _ ← literal
        next)
      (do
        needSpace
        let _ ← literal
        next') after := by
  refine (tracks_needSpace isMask).bind fun _ _ => tracks_of fun _ => ?_
  exact (tracks_literal isMask).bind fun _ _ => behind.aligned

/-- Names of other files end at the same places. -/
theorem tracks_externalId (isMask : IsMask mask) :
    Tracks never (Alongside mask) externalId externalId (Same (Alongside mask)) := by
  have done (value : Bool) :
      Tracks never (Alongside mask) (pure value) (pure value) (Same (Alongside mask)) :=
    tracks_pure fun _ _ alongside => ⟨rfl, alongside⟩
  unfold externalId
  refine (tracks_skip isMask (by decide)).bind fun isPublic isPublic' => tracks_of ?_
  rintro rfl
  cases isPublic with
  | true =>
    simp only [if_true, Bool.true_or]
    refine (done false).bind fun _ _ => tracks_of fun _ => ?_
    exact tracks_quoted isMask (tracks_quoted isMask (done true))
  | false =>
    simp only [Bool.false_eq_true, if_false, Bool.false_or]
    refine (tracks_skip isMask (by decide)).bind fun isSystem isSystem' => tracks_of ?_
    rintro rfl
    cases isSystem with
    | true => exact tracks_quoted isMask (done true)
    | false => exact done false

theorem stopsAtMark_externalId : StopsAtMark externalId := by
  unfold externalId
  refine (stopsAtMark_skip (by decide) (by decide)).bind fun isPublic => ?_
  cases isPublic with
  | true =>
    simp only [if_true, Bool.true_or]
    exact stopsAtMark_pure.bind fun _ => refusesMark_needSpace.bind.stopsAtMark
  | false =>
    simp only [Bool.false_eq_true, if_false, Bool.false_or]
    refine (stopsAtMark_skip (by decide) (by decide)).bind fun isSystem => ?_
    cases isSystem with
    | true => exact refusesMark_needSpace.bind.stopsAtMark
    | false => exact stopsAtMark_pure

/-- A definition is read alike, unless a name at its end is cut off. -/
theorem tracks_definition (isMask : IsMask mask) (isGeneral : Bool) :
    Tracks always (Alongside mask) (definition isGeneral) (definition isGeneral)
      fun _ _ => Alongside mask := by
  unfold definition
  refine tracks_ahead.bind fun rest rest' => tracks_of fun alongside => ?_
  cases rest' with
  | nil => exact fun text masked _ found' succeeded => nomatch succeeded
  | cons c inner =>
    rcases alongside.cons with ⟨text', rfl, -⟩ | swapped
    · simp only [List.head?_cons]
      split
      · refine (tracks_quotationMark isMask).bind fun quote quote' => tracks_of ?_
        rintro ⟨rfl, isQuote⟩
        refine (tracks_takeWhile fun _ _ => Aligned.span isMask isQuote.passesWords).bind
          fun words words' => tracks_of fun _ => ?_
        refine tracks_ahead.bind fun behind behind' => tracks_of fun _ => ?_
        refine (tracks_expect isMask isQuote.apart isQuote.unmarked).aligned.bind fun _ _ => ?_
        exact tracks_pure fun _ _ places => Or.inl places.2
      · split
        · refine tracks_ahead.bind fun place place' => tracks_of fun _ => ?_
          refine (tracks_externalId isMask).bind fun isExternal isExternal' => tracks_of ?_
          rintro rfl
          have done : Tracks always (Alongside mask) (pure none : Reader (Option Passage)) (pure none)
              fun _ _ => Alongside mask := tracks_pure fun _ _ alongside => alongside
          split
          · split
            · refine (tracks_skipSpace isMask).bind fun _ _ => tracks_of fun _ => ?_
              refine (tracks_skip isMask (by decide)).bind fun isData isData' => tracks_of ?_
              rintro rfl
              split
              · refine (tracks_needSpace isMask).bind fun _ _ => tracks_of fun _ => ?_
                exact (tracks_nameParts isMask).bind_stops (fun _ => stopsAtMark_pure) fun _ _ =>
                  tracks_of fun _ => done
              · exact done
            · exact done
          · exact tracks_fail
        · exact tracks_ahead.bind fun _ _ => tracks_fail
    · obtain rfl := swapped.mark isMask
      exact fun text masked _ found' succeeded => nomatch succeeded

/-- Declarations of entities end at the same places; their texts may differ. -/
theorem tracks_entity (isMask : IsMask mask) :
    Tracks never (Alongside mask) entity entity fun _ _ => Alongside mask := by
  unfold entity
  refine (tracks_needSpace isMask).bind fun _ _ => tracks_of fun _ => ?_
  refine (tracks_skip isMask (by decide)).bind fun isParameter isParameter' => tracks_of ?_
  rintro rfl
  have named : Tracks never (Alongside mask)
      (do
        let name ← name
        needSpace
        let passage? ← definition (!isParameter)
        skipSpace
        expect '>'
        pure (passage?.toList.map fun passage => (name, passage)))
      (do
        let name ← name
        needSpace
        let passage? ← definition (!isParameter)
        skipSpace
        expect '>'
        pure (passage?.toList.map fun passage => (name, passage)))
      fun _ _ => Alongside mask := by
    refine (tracks_name isMask).bind_refuses (fun _ => refusesMark_needSpace.bind) fun name name' =>
      tracks_of fun _ => ?_
    refine (tracks_needSpace isMask).bind fun _ _ => tracks_of fun _ => ?_
    refine (tracks_definition isMask _).bind_refuses (fun _ => stopsAtMark_skipSpace.bind_refuses
      fun _ => (refusesMark_expect (by decide)).bind) fun passage passage' => ?_
    refine (tracks_skipSpace isMask).bind fun _ _ => tracks_of fun _ => ?_
    refine (tracks_expect isMask (by decide) (by decide)).bind fun _ _ => ?_
    exact tracks_pure fun _ _ places => Or.inl places.2
  dsimp only
  split
  · exact (tracks_needSpace isMask).bind fun _ _ => tracks_of fun _ => named
  · exact named

/-- Document types end at the same places. -/
theorem tracks_typeEnd (isMask : IsMask mask) :
    Tracks never (Alongside mask) typeEnd typeEnd fun _ _ => Alongside mask := by
  unfold typeEnd
  refine (tracks_skipSpace isMask).bind fun _ _ => tracks_of fun _ => ?_
  refine (tracks_expectWhere isMask (by decide) _ _).bind fun _ _ => tracks_of fun _ => ?_
  exact tracks_pure fun _ _ behind => behind.alongside

theorem isQuote_bracket : IsQuote '>' := ⟨by decide, by decide⟩

/-- Declarations of other kinds start alike. -/
theorem any_startsWith_eq (isMask : IsMask mask) {words words' : Text}
    (alongside : Alongside mask words words') :
    ["!ELEMENT".toList, "!ATTLIST".toList, "!NOTATION".toList].any (Text.startsWith words) =
      ["!ELEMENT".toList, "!ATTLIST".toList, "!NOTATION".toList].any (Text.startsWith words') := by
  have starts (word : Text) (kept : isKept false word = true) :
      Text.startsWith words word = Text.startsWith words' word :=
    startsWith_eq isMask kept alongside
  simp only [List.any_cons, List.any_nil, starts "!ELEMENT".toList (by decide),
    starts "!ATTLIST".toList (by decide), starts "!NOTATION".toList (by decide)]

/-- The words of such a declaration end at the same places. -/
theorem tracks_declarationWords (isMask : IsMask mask) :
    Tracks never (Alongside mask) (takeWhile (· != '>')) (takeWhile (· != '>'))
      fun words words' rest rest' => Alongside mask words words' ∧ Aligned mask rest rest' :=
  tracks_takeWhile fun _ _ => Alongside.span isMask isQuote_bracket.passesWords

/-- A declaration ends the document type in both documents or in none. -/
theorem tracks_subsetItem (isMask : IsMask mask) (start start' : Text) (c : Char) :
    Tracks never (Alongside mask) (subsetItem start c) (subsetItem start' c)
      fun entities entities' rest rest' =>
        entities.isSome = entities'.isSome ∧ Alongside mask rest rest' := by
  have done {entities entities' : Entities} :
      Tracks never (Alongside mask) (pure (some entities)) (pure (some entities'))
        fun entities entities' rest rest' =>
          entities.isSome = entities'.isSome ∧ Alongside mask rest rest' :=
    tracks_pure fun _ _ alongside => ⟨rfl, alongside⟩
  unfold subsetItem
  refine tracks_ahead.bind fun rest rest' => tracks_of fun _ => ?_
  dsimp only
  split
  · refine (tracks_skipSpace isMask).bind fun _ _ => tracks_of fun _ => ?_
    refine tracks_ahead.bind fun rest rest' => tracks_of fun alongside => ?_
    rw [alongside.isEmpty_eq isMask]
    split
    · exact tracks_fail
    · exact done
  · split
    · refine (tracks_typeEnd isMask).bind fun _ _ => ?_
      exact tracks_pure fun _ _ alongside => ⟨rfl, alongside⟩
    · split
      · exact tracks_fail
      · refine (tracks_aside isMask).bind fun isAside isAside' => tracks_of ?_
        rintro rfl
        split
        · exact done
        · refine (tracks_skip isMask (by decide)).bind fun isEntity isEntity' => tracks_of ?_
          rintro rfl
          split
          · exact (tracks_entity isMask).bind fun _ _ => done
          · refine tracks_ahead.bind fun words words' => tracks_of fun alongside => ?_
            rw [any_startsWith_eq isMask alongside]
            split
            · exact tracks_fail
            · refine (tracks_declarationWords isMask).bind fun _ _ => tracks_of fun _ => ?_
              refine (tracks_skip isMask (by decide)).aligned.bind fun ends ends' => tracks_of ?_
              rintro rfl
              split
              · exact done
              · exact tracks_fail

end Reader

open Reader

/-! ### Rows -/

/-- Declarations in a row, up to the end of the document type, with the entities that they
declare. -/
inductive IsSubset (start : Text) : Text → Entities → Text → Prop where
  | done : IsSubset start [] [] []
  | last {c : Char} {text rest : Text} (read : Reads (subsetItem start c) text none rest) :
    IsSubset start (c :: text) [] rest
  | next {c : Char} {text between rest : Text} {entities others : Entities}
    (read : Reads (subsetItem start c) text (some entities) between)
    (more : IsSubset start between others rest) :
    IsSubset start (c :: text) (entities ++ others) rest

/-- What is read of an internal subset. -/
theorem reads_subset_iff {start text rest : Text} {entities : Entities} :
    Reads (subset start) text entities rest ↔ IsSubset start text entities rest := by
  constructor
  · rintro ⟨found, succeeded, rfl, rfl⟩
    fun_induction subset start text with
    | case1 => cases succeeded; exact .done
    | case2 => cases succeeded
    | case3 c text item read _ ended => cases succeeded; exact .last ⟨item, read, ended, rfl⟩
    | case4 => cases succeeded
    | case5 c text item read _ entities declared others readOthers ih =>
      cases succeeded
      exact .next ⟨item, read, declared, rfl⟩ (ih others readOthers)
  · intro isSubset
    induction isSubset with
    | done => exact ⟨_, by rw [subset], rfl, rfl⟩
    | last read =>
      obtain ⟨item, read, ended, rfl⟩ := read
      refine ⟨⟨[], item.rest, item.suffix.trans (List.suffix_cons _ _)⟩, ?_, rfl, rfl⟩
      rw [subset, read]
      simp only [ended]
    | next read _ ih =>
      obtain ⟨item, read, declared, rfl⟩ := read
      obtain ⟨others, readOthers, rfl, rfl⟩ := ih
      refine ⟨⟨_ ++ others.value, others.rest,
        others.suffix.trans (item.suffix.trans (List.suffix_cons _ _))⟩, ?_, rfl, rfl⟩
      rw [subset, read]
      simp only [declared, readOthers]

/-- No declaration starts with a mark, so both documents have the same character there. -/
theorem front_of_subsetItem {start rest : Text} {c : Char} {entities : Option Entities}
    (isMask : IsMask mask) (alongside : Alongside mask text (c :: masked))
    (read : Reads (subsetItem start c) masked entities rest) :
    ∃ text', text = c :: text' ∧ Behind mask c text' masked :=
  alongside.cons.resolve_right fun swapped => by
    obtain rfl := swapped.mark isMask
    obtain ⟨item, read, -⟩ := read
    cases read

/-- An internal subset of a masked text is one of the text. -/
theorem IsSubset.alongside {start start' text masked rest' : Text} {entities' : Entities}
    (isMask : IsMask mask) (alongside : Alongside mask text masked)
    (isSubset : IsSubset start' masked entities' rest') :
    ∃ entities rest, IsSubset start text entities rest ∧ Alongside mask rest rest' := by
  induction isSubset generalizing text with
  | done =>
    obtain rfl := alongside.nil isMask
    exact ⟨[], [], .done, alongside⟩
  | @last c masked rest' read' =>
    obtain ⟨text', rfl, behind⟩ := front_of_subsetItem isMask alongside read'
    obtain ⟨item, rest, read, both, alongside'⟩ :=
      (tracks_subsetItem isMask start start' c).reads behind.alongside read'
    obtain rfl : item = none := by simpa using both
    exact ⟨[], rest, .last read, alongside'⟩
  | @next c masked between' rest' _ _ read' _ ih =>
    obtain ⟨text', rfl, behind⟩ := front_of_subsetItem isMask alongside read'
    obtain ⟨item, between, read, both, alongside'⟩ :=
      (tracks_subsetItem isMask start start' c).reads behind.alongside read'
    obtain ⟨entities, rfl⟩ := Option.isSome_iff_exists.mp (both.trans rfl)
    obtain ⟨others, rest, more, alongside''⟩ := ih alongside'
    exact ⟨entities ++ others, rest, .next read more, alongside''⟩

/-- Internal subsets end at the same places. -/
theorem tracks_subset (isMask : IsMask mask) (start start' : Text) :
    Tracks never (Alongside mask) (subset start) (subset start') fun _ _ => Alongside mask := by
  refine tracks_of_reads fun text masked entities' rest' alongside reads => ?_
  obtain ⟨entities, rest, isSubset, alongside'⟩ :=
    (reads_subset_iff.mp reads).alongside isMask alongside
  exact ⟨entities, rest, reads_subset_iff.mpr isSubset, alongside'⟩

/-- Comments and instructions in a row, with white space between them, up to a rest: the end of the
text, something else in brackets, or another start. -/
inductive IsMisc : Text → Text → Prop where
  | done : IsMisc [] []
  | space {c : Char} {text rest : Text} (space : Char.isSpace c = true) (more : IsMisc text rest) :
    IsMisc (c :: text) rest
  | aside {text between rest : Text} (read : Reads aside text true between)
    (more : IsMisc between rest) : IsMisc ('<' :: text) rest
  | tag {text between : Text} (read : Reads aside text false between) :
    IsMisc ('<' :: text) ('<' :: text)
  | other {c : Char} {text : Text} (solid : ¬ Char.isSpace c = true) (closed : ¬ c = '<') :
    IsMisc (c :: text) (c :: text)

/-- What is read around the tree. -/
theorem reads_misc_iff {text rest : Text} : Reads misc text ⟨⟩ rest ↔ IsMisc text rest := by
  constructor
  · rintro ⟨found, succeeded, -, rfl⟩
    fun_induction misc text with
    | case1 => cases succeeded; exact .done
    | case2 => cases succeeded
    | case3 c text space others read ih =>
      cases succeeded
      exact .space space (ih others read)
    | case4 => cases succeeded
    | case5 => cases succeeded
    | case6 text aside read _ isAside others readOthers _ ih =>
      cases succeeded
      exact .aside ⟨aside, read, isAside, rfl⟩ (ih others readOthers)
    | case7 text aside read _ noAside =>
      cases succeeded
      exact .tag ⟨aside, read, by simpa using noAside, rfl⟩
    | case8 c text solid closed => cases succeeded; exact .other solid closed
  · intro isMisc
    induction isMisc with
    | done => exact ⟨_, by rw [misc], rfl, rfl⟩
    | @space c text _ space _ ih =>
      obtain ⟨others, readOthers, -, rfl⟩ := ih
      refine ⟨⟨⟨⟩, others.rest, others.suffix.trans (List.suffix_cons _ _)⟩, ?_, rfl, rfl⟩
      rw [misc, if_pos space, readOthers]
    | aside read _ ih =>
      obtain ⟨aside, read, isAside, rfl⟩ := read
      obtain ⟨others, readOthers, -, rfl⟩ := ih
      refine ⟨⟨⟨⟩, others.rest,
        others.suffix.trans (aside.suffix.trans (List.suffix_cons _ _))⟩, ?_, rfl, rfl⟩
      rw [misc, if_neg (by decide), if_pos rfl, read]
      simp only [isAside, readOthers, if_true]
    | tag read =>
      obtain ⟨aside, read, noAside, rfl⟩ := read
      refine ⟨⟨⟨⟩, _, List.suffix_refl _⟩, ?_, rfl, rfl⟩
      rw [misc, if_neg (by decide), if_pos rfl, read]
      simp only [noAside, Bool.false_eq_true, if_false]
    | other solid closed =>
      exact ⟨⟨⟨⟩, _, List.suffix_refl _⟩, by rw [misc, if_neg solid, if_neg closed], rfl, rfl⟩

/-- What stands around the tree of a masked text stands around that of the text. -/
theorem IsMisc.alongside {text masked rest' : Text} (isMask : IsMask mask)
    (alongside : Alongside mask text masked) (isMisc : IsMisc masked rest') :
    ∃ rest, IsMisc text rest ∧ Alongside mask rest rest' := by
  induction isMisc generalizing text with
  | done =>
    obtain rfl := alongside.nil isMask
    exact ⟨[], .done, alongside⟩
  | space space _ ih =>
    rcases alongside.cons with ⟨text', rfl, behind⟩ | swapped
    · obtain ⟨rest, more, alongside'⟩ := ih behind.alongside
      exact ⟨rest, .space space more, alongside'⟩
    · rw [swapped.mark isMask] at space
      exact absurd space (by decide)
  | aside read' _ ih =>
    rcases alongside.cons with ⟨text', rfl, behind⟩ | swapped
    · obtain ⟨_, between, read, rfl, alongside'⟩ := (tracks_aside isMask).reads behind.alongside read'
      obtain ⟨rest, more, alongside''⟩ := ih alongside'
      exact ⟨rest, .aside read more, alongside''⟩
    · exact absurd (swapped.mark isMask) (by decide)
  | tag read' =>
    rcases alongside.cons with ⟨text', rfl, behind⟩ | swapped
    · obtain ⟨_, between, read, rfl, -⟩ := (tracks_aside isMask).reads behind.alongside read'
      exact ⟨_, .tag read, alongside⟩
    · exact absurd (swapped.mark isMask) (by decide)
  | other solid closed =>
    rcases alongside.cons with ⟨text', rfl, behind⟩ | swapped
    · exact ⟨_, .other solid closed, alongside⟩
    · -- here the masked document goes on with a mark, and the document with a word
      obtain ⟨rfl, d, text', rfl, kind⟩ := swapped.head isMask
      refine ⟨d :: text', .other ?_ ?_, alongside⟩
      · intro space
        rw [isWord_of_isSpace space] at kind
        cases kind
      · rintro rfl
        exact absurd kind (by decide)

/-- What stands around the tree is skipped alike. -/
theorem tracks_misc (isMask : IsMask mask) :
    Tracks never (Alongside mask) misc misc fun _ _ => Alongside mask := by
  refine tracks_of_reads fun text masked _ rest' alongside reads => ?_
  obtain ⟨rest, isMisc, alongside'⟩ := (reads_misc_iff.mp reads).alongside isMask alongside
  exact ⟨⟨⟩, rest, reads_misc_iff.mpr isMisc, alongside'⟩

namespace Reader

/-- Document types are read alike. -/
theorem tracks_documentType (isMask : IsMask mask) (start start' : Text) :
    Tracks never (Alongside mask) (documentType start) (documentType start')
      fun _ _ => Alongside mask := by
  unfold documentType
  refine (tracks_needSpace isMask).bind fun _ _ => tracks_of fun _ => ?_
  refine tracks_ahead.bind fun place place' => tracks_of fun alongside => ?_
  rw [alongside.isEmpty_eq isMask]
  refine (tracks_nameParts isMask).bind_refuses (fun name => ?_) fun name name' => tracks_of ?_
  · split
    · exact refusesMark_fail
    · refine stopsAtMark_skipSpace.bind_refuses fun _ => ?_
      refine stopsAtMark_externalId.bind_refuses fun _ => ?_
      exact stopsAtMark_skipSpace.bind_refuses fun _ =>
        (refusesMark_expectWhere (by decide) _).bind
  · rintro rfl
    split
    · exact tracks_fail
    · refine (tracks_skipSpace isMask).bind fun _ _ => tracks_of fun _ => ?_
      refine (tracks_externalId isMask).bind fun _ _ => tracks_of fun _ => ?_
      refine (tracks_skipSpace isMask).bind fun _ _ => tracks_of fun _ => ?_
      refine (tracks_expectWhere isMask (by decide) _ _).bind fun opening opening' => tracks_of ?_
      rintro ⟨rfl, -⟩
      refine tracks_ite (fun _ => tracks_pure fun _ _ behind => behind.alongside) fun _ => ?_
      exact (tracks_subset isMask start start').mono fun _ _ behind => behind.alongside

/-- **The front of a document** is read in both documents. -/
theorem tracks_front (isMask : IsMask mask) :
    Tracks never (Alongside mask) front front fun _ _ => Alongside mask := by
  unfold front
  refine (tracks_skip isMask (by decide)).bind fun _ _ => tracks_of fun _ => ?_
  refine (tracks_skip isMask (by decide)).bind fun declares declares' => tracks_of ?_
  rintro rfl
  have behind : Tracks never (Alongside mask)
      (do
        misc
        let start ← ahead
        if ← skip "<!DOCTYPE".toList then
          let entities ← documentType start
          misc
          pure entities
        else pure [])
      (do
        misc
        let start ← ahead
        if ← skip "<!DOCTYPE".toList then
          let entities ← documentType start
          misc
          pure entities
        else pure []) fun _ _ => Alongside mask := by
    refine (tracks_misc isMask).bind fun _ _ => ?_
    refine tracks_ahead.bind fun start start' => tracks_of fun _ => ?_
    refine (tracks_skip isMask (by decide)).bind fun typed typed' => tracks_of ?_
    rintro rfl
    split
    · refine (tracks_documentType isMask start start').bind fun _ _ => ?_
      exact (tracks_misc isMask).bind fun _ _ => tracks_pure fun _ _ alongside => alongside
    · exact tracks_pure fun _ _ alongside => alongside
  dsimp only
  split
  · exact (tracks_declaration isMask).bind fun _ _ => tracks_of fun _ => behind
  · exact behind

end Reader

end IconComponents.Xml
