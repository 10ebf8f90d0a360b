/-
**What a fill or a stroke asks for.**

The value of a fill or a stroke is a link, with a text behind it or none, or it is a text alone; the
text is a word or a colour. What it asks for is read off these parts.

* `paintParts?`, `linked?` — the parts of a value, and the identifier in its link;
* `asksForCurrent` — whether the text is the word for the surrounding colour;
* `PaintValue.parse?_eq` — a value by its parts.
-/

import IconComponents.Markup.CurrentColor
import IconComponents.Proofs.Text.Blank
import IconComponents.Proofs.Text.Scan
import IconComponents.Svg.Paint

namespace IconComponents.Svg

variable {text value id rest inner : Text} {c : Char}

/-! ### Parts of a value -/

/-- What a value says: the identifier that it links, if it is a link, and the text of the paint. -/
def paintParts? (value : Text) : Option (Option Text × Text) :=
  match Text.after? "url(".toList (Text.trim value) with
  | some inner => (readLink? inner).map fun (id, rest) => (some id, Text.skipSpace rest)
  | none => some (none, Text.trim value)

/-- **Whether a value asks for the surrounding colour**, in any letter case. -/
def asksForCurrent (value : Text) : Bool :=
  (paintParts? value).any fun (_, text) => isCurrentColor text

/-- The identifier that a value links. -/
def linked? (value : Text) : Option Text := (paintParts? value).bind (·.1)

theorem PaintValue.parse?_eq (value : Text) : PaintValue.parse? value =
    (paintParts? value).bind fun (link?, text) =>
      if link?.isNone && borrowedPaints.contains text || link?.isSome && text.isEmpty then
        some ⟨link?, .nothing⟩
      else (Paint.parse? text).map fun paint => ⟨link?, paint⟩ := by
  unfold PaintValue.parse? paintParts?
  simp only
  cases Text.after? "url(".toList (Text.trim value) with
  | none => simp
  | some inner =>
    simp only
    cases readLink? inner with
    | none => rfl
    | some link => simp

/-- The link of a paint is that of its text. -/
theorem link?_of_parse? {paint : PaintValue} (parsed : PaintValue.parse? value = some paint) :
    paint.link? = linked? value := by
  rw [PaintValue.parse?_eq] at parsed
  obtain ⟨⟨link?, text⟩, parts, parsed⟩ := Option.bind_eq_some_iff.mp parsed
  rw [linked?, parts, Option.bind_some]
  simp only at parsed
  split at parsed
  · cases parsed
    rfl
  · obtain ⟨_, -, rfl⟩ := Option.map_eq_some_iff.mp parsed
    rfl

/-- Only a value that asks for the surrounding colour has it. -/
theorem paint_ne_surrounding {paint : PaintValue} (other : asksForCurrent value = false)
    (parsed : PaintValue.parse? value = some paint) : paint.paint ≠ .surrounding := by
  rw [PaintValue.parse?_eq] at parsed
  obtain ⟨⟨link?, text⟩, parts, parsed⟩ := Option.bind_eq_some_iff.mp parsed
  rw [asksForCurrent, parts, Option.any_some] at other
  simp only at parsed other
  split at parsed
  · cases parsed
    exact nofun
  · obtain ⟨found, read, rfl⟩ := Option.map_eq_some_iff.mp parsed
    rintro rfl
    unfold Paint.parse? at read
    split at read
    · cases read
    split at read
    · next same =>
      have word : isCurrentColor "currentColor".toList = true := beq_self_eq_true _
      rw [same, word] at other
      cases other
    · obtain ⟨_, -, same⟩ := Option.map_eq_some_iff.mp read
      cases same

/-! ### The ends of a paint -/

theorem suffix_of_linkedId? (found : linkedId? inner = some (id, rest)) : rest <:+ inner := by
  have skipped := List.dropWhile_suffix (l := inner) Char.isSpace
  unfold linkedId? at found
  split at found
  · next text start =>
    simp only [Option.some.injEq, Prod.mk.injEq] at found
    obtain ⟨-, rfl⟩ := found
    rw [Text.skipSpace] at start
    rw [start] at skipped
    exact ((List.dropWhile_suffix _).trans (List.suffix_cons _ _)).trans skipped
  · next quote inside _ start =>
    rw [Text.skipSpace] at start
    rw [start] at skipped
    have skipped' := List.dropWhile_suffix (l := inside) Char.isSpace
    split at found
    · split at found
      · next text mark =>
        rw [Text.skipSpace] at mark
        rw [mark] at skipped'
        have left := List.dropWhile_suffix (l := text) (· != quote)
        split at found
        · cases found
        · next split =>
          simp only [Option.some.injEq, Prod.mk.injEq] at found
          obtain ⟨-, rfl⟩ := found
          rw [split] at left
          exact ((((List.suffix_cons _ _).trans left).trans (List.suffix_cons _ _)).trans
            skipped').trans ((List.suffix_cons _ _).trans skipped)
      · cases found
    · cases found
  · cases found

theorem suffix_of_readLink? (found : readLink? inner = some (id, rest)) : rest <:+ inner := by
  obtain ⟨⟨id', behind⟩, linked, closed⟩ := Option.bind_eq_some_iff.mp found
  have skipped := List.dropWhile_suffix (l := behind) Char.isSpace
  simp only at closed
  split at closed
  · next bracket =>
    rw [Text.skipSpace] at bracket
    rw [bracket] at skipped
    split at closed
    · cases closed
    · obtain ⟨-, rfl⟩ := Prod.mk.inj (Option.some.inj closed)
      exact ((List.suffix_cons _ _).trans skipped).trans (suffix_of_linkedId? linked)
  · cases closed

/-- A text without white space at its ends. -/
structure IsBare (text : Text) : Prop where
  head : ∀ c ∈ text.head?, Char.isSpace c = false
  last : ∀ c ∈ text.getLast?, Char.isSpace c = false

theorem isBlank_of_isSpace (space : Char.isSpace c = true) : Char.isBlank c = true := by
  simp only [Char.isSpace, Bool.or_eq_true, decide_eq_true_eq, or_assoc] at space
  rcases space with rfl | rfl | rfl | rfl <;> decide

theorem suffix_of_paintParts? {link? : Option Text}
    (parts : paintParts? value = some (link?, text)) : text <:+ Text.trim value := by
  unfold paintParts? at parts
  split at parts
  · next inner found =>
    obtain ⟨⟨id, rest⟩, read, same⟩ := Option.map_eq_some_iff.mp parts
    obtain ⟨-, rfl⟩ := Prod.mk.inj same
    rw [Text.after?_eq_some_iff.mp found]
    exact ((List.dropWhile_suffix _).trans (suffix_of_readLink? read)).trans
      (List.suffix_append _ _)
  · obtain ⟨-, rfl⟩ := Prod.mk.inj (Option.some.inj parts)
    exact List.suffix_rfl

/-- The text of a paint has no white space at its ends. -/
theorem isBare_of_paintParts? {link? : Option Text}
    (parts : paintParts? value = some (link?, text)) : IsBare text := by
  have solid {c : Char} (solid : Char.isBlank c = false) : Char.isSpace c = false := by
    rw [← Bool.not_eq_true] at solid ⊢
    exact mt isBlank_of_isSpace solid
  obtain ⟨first, last⟩ := Text.isTrimmed_trim value
  have within := suffix_of_paintParts? parts
  refine ⟨fun c head => ?_, fun c final => solid (last c ?_)⟩
  · unfold paintParts? at parts
    split at parts
    · obtain ⟨⟨id, rest⟩, -, same⟩ := Option.map_eq_some_iff.mp parts
      obtain ⟨-, rfl⟩ := Prod.mk.inj same
      have skipped := List.head?_dropWhile_not Char.isSpace rest
      rw [Text.skipSpace] at head
      rw [head] at skipped
      simpa using skipped
    · obtain ⟨-, rfl⟩ := Prod.mk.inj (Option.some.inj parts)
      exact solid (first c head)
  · obtain ⟨ahead, whole⟩ := within
    rw [← whole, List.getLast?_append, final]
    rfl

/-- A bare text is the word, or it is not the word with white space behind it either. -/
theorem isCurrentColor_of_isBare (bare : IsBare text) {word blanks : Text}
    (split : Text.skipSpace text = word ++ blanks) (blank : ∀ c ∈ blanks, Char.isSpace c = true)
    (named : isCurrentColor word = true) : isCurrentColor text = true := by
  have kept : Text.skipSpace text = text := by
    cases text with
    | nil => rfl
    | cons c text => exact List.dropWhile_cons_of_neg (by simp [bare.head c rfl])
  rcases List.eq_nil_or_concat blanks with rfl | ⟨others, c, rfl⟩
  · rwa [← kept, split, List.append_nil]
  · have space := blank c (by simp)
    rw [bare.last c (by rw [← kept, split]; simp)] at space
    cases space

end IconComponents.Svg
