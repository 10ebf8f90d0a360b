/-
**Reading a masked document alongside the document.**

What a reader finds in a masked text, it finds in the text, too, and leaves the two texts at places
that belong together. The one exception are names: `currentColor` can stand in a name, and the
masking colour cannot. A reader of names can thus be stopped at a mark, and nothing goes on there.

* `Tracks` — a reader of the text goes along with a reader of the masked text;
* `Tracks.bind`, `Tracks.bind_refuses` — readers in a row;
* `tracks_expectWhere`, `tracks_skip`, `tracks_wordsUpTo`, `tracks_qualifiedName` — the parts.
-/

import IconComponents.Proofs.Markup.Alongside
import IconComponents.Xml.Reader

namespace IconComponents.Xml.Reader

variable {α β : Type} {mask text : Text} {p : Char → Bool}
  {before : Text → Text → Prop}

/-! ### Rows of readers -/

/-- Two readers one after the other succeed if the first does, and the second on what is left. -/
theorem bind_eq_ok {reader : Reader α} {next : α → Reader β} {found : Reading β text} :
    (reader >>= next) text = .ok found ↔ ∃ first, reader text = .ok first ∧
      ∃ second, next first.value first.rest = .ok second ∧ found.value = second.value ∧
        found.rest = second.rest := by
  change Reader.bind reader next text = _ ↔ _
  unfold Reader.bind
  constructor
  · intro succeeded
    split at succeeded
    · cases succeeded
    · next first read =>
      split at succeeded
      · cases succeeded
      · next second read' =>
        cases succeeded
        exact ⟨first, read, second, read', rfl, rfl⟩
  · rintro ⟨first, read, second, read', value, rest⟩
    obtain ⟨found, left, length⟩ := found
    subst value rest
    rw [read]
    simp only [read']

/-- Where one reader succeeds on a masked text, the other one succeeds on the text. With some
findings, the first one can also be stuck at a mark. -/
def Tracks (stuck : α → Prop) (before : Text → Text → Prop) (reader reader' : Reader α)
    (after : α → α → Text → Text → Prop) : Prop :=
  ∀ text masked, before text masked → ∀ found', reader' masked = .ok found' →
    (∃ found, reader text = .ok found ∧ after found.value found'.value found.rest found'.rest) ∨
      stuck found'.value ∧ found'.rest.head? = some '#'

/-- A reader is stuck with no finding. -/
abbrev never : α → Prop := fun _ => False

/-- A reader can be stuck with any finding. -/
abbrev always : α → Prop := fun _ => True

/-- What both readers find is the same. -/
abbrev Same (places : Text → Text → Prop) (found found' : α) (rest rest' : Text) : Prop :=
  found = found' ∧ places rest rest'

/-- A reader finds nothing in a text that starts with a mark. -/
def RefusesMark (reader : Reader α) : Prop :=
  ∀ masked found, masked.head? = some '#' → reader masked ≠ .ok found

/-- A reader does not go beyond a mark that the text starts with. -/
def StopsAtMark (reader : Reader α) : Prop :=
  ∀ masked found, masked.head? = some '#' → reader masked = .ok found →
    found.rest.head? = some '#'

section Rows

variable {reader reader' : Reader α} {next next' : α → Reader β} {stuck : α → Prop}
  {stuck' : β → Prop} {between : α → α → Text → Text → Prop} {after : β → β → Text → Text → Prop}

/-- Readers that track each other are followed by others that do, also where the first may get
stuck. -/
theorem Tracks.bind_of (first : Tracks stuck before reader reader' between)
    (stop : ∀ found' masked found, stuck found' → masked.head? = some '#' →
      next' found' masked = .ok found → stuck' found.value ∧ found.rest.head? = some '#')
    (second : ∀ found found', Tracks stuck' (between found found') (next found) (next' found')
      after) : Tracks stuck' before (reader >>= next) (reader' >>= next') after := by
  intro text masked places found' succeeded
  obtain ⟨one', read', two', readNext', value, rest⟩ := bind_eq_ok.mp succeeded
  rw [value, rest]
  rcases first text masked places one' read' with ⟨one, read, related⟩ | ⟨stops, stopped⟩
  · rcases second _ _ _ _ related two' readNext' with ⟨two, readNext, related'⟩ | stopped
    · exact Or.inl ⟨⟨two.value, two.rest, two.suffix.trans one.suffix⟩,
        bind_eq_ok.mpr ⟨one, read, two, readNext, rfl, rfl⟩, related'⟩
    · exact Or.inr stopped
  · exact Or.inr (stop one'.value one'.rest two' stops stopped readNext')

/-- Readers that track each other are followed by others that do. -/
theorem Tracks.bind (first : Tracks never before reader reader' between)
    (second : ∀ found found', Tracks stuck' (between found found') (next found) (next' found')
      after) : Tracks stuck' before (reader >>= next) (reader' >>= next') after :=
  first.bind_of nofun second

/-- Behind a reader that can be stuck at a mark, nothing goes on there. -/
theorem Tracks.bind_refuses (first : Tracks always before reader reader' between)
    (refuses : ∀ found', RefusesMark (next' found'))
    (second : ∀ found found', Tracks stuck' (between found found') (next found) (next' found')
      after) : Tracks stuck' before (reader >>= next) (reader' >>= next') after :=
  first.bind_of (fun found' masked found _ mark read =>
    absurd read (refuses found' masked found mark)) second

/-- Behind a reader that can be stuck at a mark, the next one stops there, too. -/
theorem Tracks.bind_stops (first : Tracks always before reader reader' between)
    (stops : ∀ found', StopsAtMark (next' found'))
    (second : ∀ found found', Tracks always (between found found') (next found) (next' found')
      after) : Tracks always before (reader >>= next) (reader' >>= next') after :=
  first.bind_of (fun found' masked found _ mark read =>
    ⟨trivial, stops found' masked found mark read⟩) second

/-- What stops at a mark may be followed by what does. -/
theorem StopsAtMark.bind (first : StopsAtMark reader) (second : ∀ found, StopsAtMark (next found)) :
    StopsAtMark (reader >>= next) := by
  intro masked found mark read
  obtain ⟨one, read', two, readNext, -, rest⟩ := bind_eq_ok.mp read
  rw [rest]
  exact second one.value one.rest two (first masked one mark read') readNext

/-- What stops at a mark refuses one together with what refuses it. -/
theorem StopsAtMark.bind_refuses (first : StopsAtMark reader)
    (second : ∀ found, RefusesMark (next found)) : RefusesMark (reader >>= next) := by
  intro masked found mark read
  obtain ⟨one, read', two, readNext, -, -⟩ := bind_eq_ok.mp read
  exact second one.value one.rest two (first masked one mark read') readNext

/-- What refuses a mark refuses it whatever follows. -/
theorem RefusesMark.bind (first : RefusesMark reader) : RefusesMark (reader >>= next) := by
  intro masked found mark read
  obtain ⟨one, read', -⟩ := bind_eq_ok.mp read
  exact first masked one mark read'

theorem RefusesMark.stopsAtMark (refuses : RefusesMark reader) : StopsAtMark reader :=
  fun masked found mark read => absurd read (refuses masked found mark)

theorem stopsAtMark_pure {value : α} : StopsAtMark (pure value) := by
  intro masked found mark read
  cases read
  exact mark

theorem refusesMark_fail {fault : Fault} {place : Text} :
    RefusesMark (fail fault place : Reader α) :=
  fun _ _ _ read => nomatch read

theorem stopsAtMark_fail {fault : Fault} {place : Text} :
    StopsAtMark (fail fault place : Reader α) :=
  refusesMark_fail.stopsAtMark

/-- A reader that is never stuck finds what the other one finds. -/
theorem Tracks.found {masked : Text} {found' : Reading α masked}
    (tracks : Tracks never before reader reader' between) (places : before text masked)
    (succeeded : reader' masked = .ok found') :
    ∃ found, reader text = .ok found ∧ between found.value found'.value found.rest found'.rest := by
  rcases tracks text masked places found' succeeded with found | ⟨impossible, -⟩
  · exact found
  · cases impossible

/-- Readers that never get stuck track each other whatever being stuck means. -/
theorem Tracks.loosen (tracks : Tracks never before reader reader' between) :
    Tracks stuck before reader reader' between := by
  exact fun text masked places found' succeeded => Or.inl (tracks.found places succeeded)

theorem Tracks.weaken {between' : α → α → Text → Text → Prop}
    (tracks : Tracks stuck before reader reader' between)
    (implies : ∀ found found' rest rest', between found found' rest rest' →
      between' found found' rest rest') : Tracks stuck before reader reader' between' := by
  intro text masked places found' succeeded
  rcases tracks text masked places found' succeeded with ⟨found, read, related⟩ | stopped
  · exact Or.inl ⟨found, read, implies _ _ _ _ related⟩
  · exact Or.inr stopped

/-- What is known of both places is known to the readers behind. -/
theorem tracks_of {known : Prop} {places : Text → Text → Prop}
    (tracks : known → Tracks stuck places reader reader' between) :
    Tracks stuck (fun rest rest' => known ∧ places rest rest') reader reader' between :=
  fun text masked places => tracks places.1 text masked places.2

theorem Tracks.mono {before' : Text → Text → Prop}
    (tracks : Tracks stuck before reader reader' between)
    (implies : ∀ rest rest', before' rest rest' → before rest rest') :
    Tracks stuck before' reader reader' between :=
  fun text masked places => tracks text masked (implies text masked places)

/-- What is known of all that readers leave of a text stays known. -/
theorem Tracks.keeping {holds : Text → Prop}
    (closed : ∀ {rest text}, rest <:+ text → holds text → holds rest)
    (tracks : Tracks stuck before reader reader' between) :
    Tracks stuck (fun text masked => holds text ∧ before text masked) reader reader'
      fun found found' rest rest' => holds rest ∧ between found found' rest rest' := by
  rintro text masked ⟨known, places⟩ found' succeeded
  rcases tracks text masked places found' succeeded with ⟨found, read, related⟩ | stopped
  · exact Or.inl ⟨found, read, closed found.suffix known, related⟩
  · exact Or.inr stopped

theorem Tracks.aligned (tracks : Tracks stuck (Alongside mask) reader reader' between) :
    Tracks stuck (Aligned mask) reader reader' between :=
  tracks.mono fun _ _ => Or.inl

theorem tracks_pure {value value' : α}
    (related : ∀ rest rest', before rest rest' → between value value' rest rest') :
    Tracks stuck before (pure value) (pure value') between := by
  intro text masked places found' succeeded
  cases succeeded
  exact Or.inl ⟨_, rfl, related _ _ places⟩

theorem tracks_fail {fault : Fault} {place : Text} :
    Tracks stuck before reader (fail fault place) between := by
  intro text masked places found' succeeded
  cases succeeded

theorem tracks_ite {condition : Prop} [Decidable condition] {other other' : Reader α}
    (yes : condition → Tracks stuck before reader reader' between)
    (no : ¬ condition → Tracks stuck before other other' between) :
    Tracks stuck before (if condition then reader else other)
      (if condition then reader' else other') between := by
  split
  · next holds => exact yes holds
  · next fails => exact no fails

theorem tracks_ahead {stuck : Text → Prop} :
    Tracks stuck before ahead ahead fun found found' rest rest' =>
      before found found' ∧ before rest rest' := by
  intro text masked places found' succeeded
  cases succeeded
  exact Or.inl ⟨_, rfl, places, places⟩

end Rows

/-! ### Parts -/

theorem tracks_skipSpace (isMask : IsMask mask) :
    Tracks never (Alongside mask) skipSpace skipSpace (Same (Alongside mask)) := by
  intro text masked alongside found' succeeded
  cases succeeded
  exact Or.inl ⟨_, rfl, rfl, alongside.skipSpace isMask⟩

theorem skip_of_some {words rest : Text} (start : Text.after? words text = some rest) :
    ∃ found, skip words text = .ok found ∧ found.value = true ∧ found.rest = rest := by
  unfold skip
  split
  · next other same =>
    rw [start] at same
    cases same
    exact ⟨_, rfl, rfl, rfl⟩
  · next none => rw [start] at none; cases none

theorem skip_of_none {words : Text} (other : Text.after? words text = none) :
    ∃ found, skip words text = .ok found ∧ found.value = false ∧ found.rest = text := by
  unfold skip
  split
  · next rest same => rw [other] at same; cases same
  · exact ⟨_, rfl, rfl, rfl⟩

/-- Given words that are kept are in both texts or in none. -/
theorem tracks_skip (isMask : IsMask mask) {words : Text} (kept : isKept false words = true) :
    Tracks never (Alongside mask) (skip words) (skip words) (Same (Alongside mask)) := by
  intro text masked alongside found' succeeded
  have related := alongside.after? isMask kept nofun
  cases here : Text.after? words text with
  | none =>
    cases there : Text.after? words masked with
    | none =>
      obtain ⟨found, read, value, rest⟩ := skip_of_none here
      obtain ⟨other, read', value', rest'⟩ := skip_of_none there
      obtain rfl := Except.ok.inj (succeeded.symm.trans read')
      refine Or.inl ⟨found, read, value.trans value'.symm, ?_⟩
      rwa [rest, rest']
    | some left => rw [here, there] at related; cases related
  | some left =>
    cases there : Text.after? words masked with
    | none => rw [here, there] at related; cases related
    | some left' =>
      obtain ⟨found, read, value, rest⟩ := skip_of_some here
      obtain ⟨other, read', value', rest'⟩ := skip_of_some there
      obtain rfl := Except.ok.inj (succeeded.symm.trans read')
      rw [here, there] at related
      cases related with
      | some alongside' =>
        refine Or.inl ⟨found, read, value.trans value'.symm, ?_⟩
        rwa [rest, rest']

/-- Whether a text goes on with given words that are kept, it does so in both texts. -/
theorem startsWith_eq {words masked : Text} (isMask : IsMask mask)
    (kept : isKept false words = true) (alongside : Alongside mask text masked) :
    Text.startsWith text words = Text.startsWith masked words := by
  have same {rest rest' : Option Text} (related : Option.Rel (Alongside mask) rest rest') :
      rest.isSome = rest'.isSome := by
    cases related <;> rfl
  exact same (alongside.after? isMask kept nofun)

/-- A character that is not the mark is in both texts. -/
theorem tracks_expectWhere (isMask : IsMask mask) (unmarked : p '#' = false)
    (fault fault' : Char → Fault) :
    Tracks never (Alongside mask) (expectWhere p fault) (expectWhere p fault')
      fun c c' rest rest' => (c = c' ∧ p c = true) ∧ Behind mask c rest rest' := by
  intro text masked alongside found' succeeded
  cases masked with
  | nil => cases succeeded
  | cons c masked =>
    unfold expectWhere at succeeded
    simp only at succeeded
    split at succeeded
    · next passed =>
      cases succeeded
      rcases alongside.cons with ⟨text', rfl, behind⟩ | swapped
      · refine Or.inl ⟨⟨c, text', List.suffix_cons _ _⟩, ?_, ⟨rfl, passed⟩, behind⟩
        unfold expectWhere
        simp only [passed, if_true]
      · rw [swapped.mark isMask, unmarked] at passed
        cases passed
    · cases succeeded

/-- A character that is no part of words is expected at the same places. -/
theorem tracks_expect (isMask : IsMask mask) {c : Char} (apart : Char.isWord c = false)
    (unmarked : c ≠ '#') :
    Tracks never (Alongside mask) (expect c) (expect c) (Same (Aligned mask)) := by
  refine (tracks_expectWhere isMask (decide_eq_false (Ne.symm unmarked)) _ _).bind fun d d' =>
    tracks_of fun ⟨_, same⟩ => tracks_pure fun rest rest' behind => ⟨rfl, behind.aligned ?_⟩
  rwa [of_decide_eq_true same]

/-- Words that a mask keeps are expected at the same places. -/
theorem tracks_expectText (isMask : IsMask mask) {words : Text} (kept : isKept false words = true) :
    Tracks never (Alongside mask) (expectText words) (expectText words)
      (Same (Alongside mask)) := by
  refine tracks_ahead.bind fun place place' => tracks_of fun _ => ?_
  refine (tracks_skip isMask kept).bind fun found found' => tracks_of ?_
  rintro rfl
  split
  · exact tracks_pure fun _ _ alongside => ⟨rfl, alongside⟩
  · exact tracks_fail

/-- What stands between quotation marks is in no word, and is no mark. -/
structure IsQuote (quote : Char) : Prop where
  apart : Char.isWord quote = false
  unmarked : quote ≠ '#'

/-- Quotation marks are at the same places, and the same ones. -/
theorem tracks_quotationMark (isMask : IsMask mask) :
    Tracks never (Alongside mask) quotationMark quotationMark fun c c' rest rest' =>
      (c = c' ∧ IsQuote c) ∧ Aligned mask rest rest' := by
  refine (tracks_expectWhere isMask (by decide) _ _).weaken ?_
  rintro c c' rest rest' ⟨⟨rfl, quote⟩, behind⟩
  have isQuote : IsQuote c := by
    have quote : c = '"' ∨ c = '\'' := by simpa using quote
    rcases quote with rfl | rfl <;> exact ⟨by decide, by decide⟩
  exact ⟨⟨rfl, isQuote⟩, behind.aligned isQuote.apart⟩

theorem tracks_needSpace (isMask : IsMask mask) :
    Tracks never (Alongside mask) needSpace needSpace (Same (Alongside mask)) :=
  (tracks_expectWhere isMask (by decide) _ _).bind fun _ _ =>
    tracks_of fun _ => (tracks_skipSpace isMask).mono fun _ _ => Behind.alongside

/-- What is taken of both texts is aligned if the spans are. -/
theorem tracks_takeWhile {places : Text → Text → Prop}
    (span : ∀ text masked, places text masked → places (text.takeWhile p) (masked.takeWhile p) ∧
      Aligned mask (text.dropWhile p) (masked.dropWhile p)) :
    Tracks never places (takeWhile p) (takeWhile p) fun words words' rest rest' =>
      places words words' ∧ Aligned mask rest rest' := by
  intro text masked place found' succeeded
  cases succeeded
  exact Or.inl ⟨_, rfl, span text masked place⟩

/-- No quotation mark ends within a word. -/
theorem IsQuote.passesWords {quote : Char} (isQuote : IsQuote quote) :
    PassesWords (· != quote) :=
  passesWords_bne isQuote.apart isQuote.unmarked

/-- Quoted texts end at the same places. -/
theorem tracks_literal (isMask : IsMask mask) :
    Tracks never (Alongside mask) literal literal fun _ _ => Aligned mask := by
  refine (tracks_quotationMark isMask).bind fun quote quote' => tracks_of ?_
  rintro ⟨rfl, isQuote⟩
  refine (tracks_takeWhile fun _ _ => Aligned.span isMask isQuote.passesWords).bind
    fun words words' => tracks_of fun _ => ?_
  refine (tracks_expect isMask isQuote.apart isQuote.unmarked).aligned.bind fun _ _ => ?_
  exact tracks_pure fun _ _ => And.right

/-! ### Words -/

theorem checkWords_of_all {words behind : Text} (all : ∀ c ∈ words, isDocumentChar c = true) :
    checkWords words behind = pure ⟨⟩ := by
  have none : words.dropWhile isDocumentChar = [] := List.dropWhile_eq_nil_iff.mpr all
  rw [checkWords, none]

/-- Words that pass the check have characters of documents only. -/
theorem all_of_checkWords {words behind : Text} {found : Reading PUnit text}
    (checked : checkWords words behind text = .ok found) :
    (∀ c ∈ words, isDocumentChar c = true) ∧ found.rest = text := by
  cases kept : words.dropWhile isDocumentChar with
  | nil =>
    rw [checkWords, kept] at checked
    cases checked
    exact ⟨List.dropWhile_eq_nil_iff.mp kept, rfl⟩
  | cons c rest =>
    rw [checkWords, kept] at checked
    cases checked

/-- No letter of `currentColor` is refused. -/
theorem isDocumentChar_of_letter (c : Char) (letter : c.toLower ∈ Text.lower currentColor) :
    isDocumentChar c = true := by
  rcases letter_cases letter with ⟨-, low, high⟩ | small
  · simp only [isDocumentChar, Bool.or_eq_true, Bool.and_eq_true, decide_eq_true_eq, bne_iff_ne]
    omega
  · have letters : (Text.lower currentColor).all isDocumentChar = true := by decide
    exact List.all_eq_true.mp letters c small

/-- If the words of a masked text pass the check, so do those of the text. -/
theorem tracks_checkWords {words words' behind behind' : Text}
    (alongside : Alongside mask words words') :
    Tracks never before (checkWords words behind) (checkWords words' behind')
      fun _ _ => before := by
  intro text masked places found' checked
  obtain ⟨all, rest⟩ := all_of_checkWords checked
  rw [checkWords_of_all (alongside.forall isDocumentChar_of_letter all), rest]
  exact Or.inl ⟨_, rfl, places⟩

theorem tracks_wordsWhile {places : Text → Text → Prop}
    (span : ∀ text masked, places text masked → places (text.takeWhile p) (masked.takeWhile p) ∧
      Aligned mask (text.dropWhile p) (masked.dropWhile p))
    (alongside : ∀ text masked, places text masked → Alongside mask text masked) :
    Tracks never places (wordsWhile p) (wordsWhile p) fun words words' rest rest' =>
      places words words' ∧ Aligned mask rest rest' := by
  refine (tracks_takeWhile span).bind fun words words' => tracks_of fun taken => ?_
  refine tracks_ahead.bind fun behind behind' => tracks_of fun _ => ?_
  refine (tracks_checkWords (alongside _ _ taken)).bind fun _ _ => ?_
  exact tracks_pure fun _ _ aligned => ⟨taken, aligned⟩

/-- What is read up to a mark is cut there, and has characters of documents only. -/
theorem of_wordsUpTo {mark : Text} {found : Reading Text text}
    (succeeded : wordsUpTo mark text = .ok found) :
    Text.cut? mark text = some (found.value, found.rest) ∧
      ∀ c ∈ found.value, isDocumentChar c = true := by
  unfold wordsUpTo at succeeded
  split at succeeded
  · change (checkWords text [] >>= fun _ => fail (.expectedText mark) []) text = _ at succeeded
    obtain ⟨_, -, second, impossible, -⟩ := bind_eq_ok.mp succeeded
    cases impossible
  · next words rest cut =>
    split at succeeded
    · cases succeeded
    · next checked =>
      cases succeeded
      exact ⟨cut, (all_of_checkWords checked).1⟩

/-- A cut at a mark is read if it has characters of documents only. -/
theorem wordsUpTo_of {mark words rest : Text} (cut : Text.cut? mark text = some (words, rest))
    (all : ∀ c ∈ words, isDocumentChar c = true) :
    ∃ found, wordsUpTo mark text = .ok found ∧ found.value = words ∧ found.rest = rest := by
  unfold wordsUpTo
  split
  · next none => rw [cut] at none; cases none
  · next words' rest' cut' =>
    rw [cut] at cut'
    cases cut'
    rw [checkWords_of_all all]
    exact ⟨_, rfl, rfl, rfl⟩

/-- Texts up to a mark that is no part of words end at the same places. -/
theorem tracks_wordsUpTo (isMask : IsMask mask) {mark : Text} (isApart : IsApart mark) :
    Tracks never (Alongside mask) (wordsUpTo mark) (wordsUpTo mark)
      fun words words' rest rest' => Alongside mask words words' ∧ Aligned mask rest rest' := by
  intro text masked alongside found' succeeded
  obtain ⟨cut', all⟩ := of_wordsUpTo succeeded
  have related := alongside.cut? isMask isApart
  rw [cut'] at related
  cases cut : Text.cut? mark text with
  | none => rw [cut] at related; cases related
  | some parts =>
    rw [cut] at related
    cases related with
    | some places =>
      obtain ⟨words, rest⟩ := places
      obtain ⟨found, read, value, left⟩ :=
        wordsUpTo_of cut (words.forall isDocumentChar_of_letter all)
      refine Or.inl ⟨found, read, ?_⟩
      rw [value, left]
      exact ⟨words, rest⟩

/-- A mark that is no part of words is in both texts or in none. -/
theorem contains_eq {mark words words' : Text} (isMask : IsMask mask) (isApart : IsApart mark)
    (alongside : Alongside mask words words') :
    Text.contains words mark = Text.contains words' mark := by
  have same {cut cut' : Option (Text × Text)} {related : Text × Text → Text × Text → Prop}
      (both : Option.Rel related cut cut') : cut.isSome = cut'.isSome := by
    cases both <;> rfl
  exact same (alongside.cut? isMask isApart)

/-! ### Names -/

/-- Whether a character can stand in a name, also in front of a colon. -/
abbrev isNameChar (c : Char) : Bool := c = ':' || isNamePart c

theorem tracks_nameParts (isMask : IsMask mask) :
    Tracks always (Alongside mask) nameParts nameParts (Same (Alongside mask)) := by
  intro text masked alongside found' succeeded
  cases succeeded
  rcases alongside.takeWhile isMask (p := isNameChar) (by decide) with ⟨rest, -, swapped⟩ | same
  · refine Or.inr ⟨trivial, ?_⟩
    obtain ⟨word, behind, -, -, -, same⟩ := swapped
    obtain ⟨digits, rfl, -⟩ := isMask.shape
    exact congrArg List.head? same
  · exact Or.inl ⟨_, rfl, same⟩

theorem tracks_name (isMask : IsMask mask) :
    Tracks always (Alongside mask) name name (Same (Alongside mask)) := by
  refine tracks_ahead.bind fun place place' => tracks_of fun _ => ?_
  refine (tracks_nameParts isMask).bind_stops (fun parts => ?_) fun parts parts' => tracks_of ?_
  · split
    · exact stopsAtMark_pure
    · exact stopsAtMark_fail
  · rintro rfl
    split
    · exact tracks_pure fun _ _ alongside => ⟨rfl, alongside⟩
    · exact tracks_fail

/-- Names are the same in a text and in the masked one. -/
theorem tracks_qualifiedName (isMask : IsMask mask) :
    Tracks always (Alongside mask) qualifiedName qualifiedName (Same (Alongside mask)) := by
  refine tracks_ahead.bind fun place place' => tracks_of fun _ => ?_
  refine (tracks_nameParts isMask).bind_stops (fun parts => ?_) fun parts parts' => tracks_of ?_
  · dsimp only
    split
    · split
      · exact stopsAtMark_pure
      · exact stopsAtMark_fail
    · split
      · exact stopsAtMark_pure
      · exact stopsAtMark_fail
    · exact stopsAtMark_fail
  · rintro rfl
    dsimp only
    split
    · split
      · exact tracks_pure fun _ _ alongside => ⟨rfl, alongside⟩
      · exact tracks_fail
    · split
      · exact tracks_pure fun _ _ alongside => ⟨rfl, alongside⟩
      · exact tracks_fail
    · exact tracks_fail

/-! ### Marks -/

theorem stopsAtMark_skipSpace : StopsAtMark skipSpace := by
  intro masked found mark read
  cases read
  cases masked with
  | nil => exact mark
  | cons c masked =>
    obtain rfl := Option.some.inj mark
    rfl

theorem stopsAtMark_skip {words : Text} (kept : isKept false words = true) (some : words ≠ []) :
    StopsAtMark (skip words) := by
  intro masked found mark read
  cases masked with
  | nil => cases mark
  | cons c masked =>
    obtain rfl := Option.some.inj mark
    obtain ⟨first, others, rfl⟩ := List.exists_cons_of_ne_nil some
    have other : Text.after? (first :: others) ('#' :: masked) = none := by
      simp only [isKept, Bool.and_eq_true, bne_iff_ne] at kept
      rw [Text.after?, if_neg kept.1.1]
    obtain ⟨found', read', -, rest⟩ := skip_of_none other
    obtain rfl := Except.ok.inj (read.symm.trans read')
    rw [rest]
    rfl

theorem refusesMark_expectWhere (unmarked : p '#' = false) (fault : Char → Fault) :
    RefusesMark (expectWhere p fault) := by
  intro masked found mark read
  cases masked with
  | nil => cases mark
  | cons c masked =>
    obtain rfl := Option.some.inj mark
    unfold expectWhere at read
    simp only [unmarked, Bool.false_eq_true, if_false] at read
    cases read

theorem refusesMark_expect {c : Char} (unmarked : c ≠ '#') : RefusesMark (expect c) :=
  (refusesMark_expectWhere (decide_eq_false (Ne.symm unmarked)) _).bind

theorem refusesMark_needSpace : RefusesMark needSpace :=
  (refusesMark_expectWhere (by decide) _).bind

end IconComponents.Xml.Reader
