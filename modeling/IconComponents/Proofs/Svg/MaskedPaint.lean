/-
**The values of fills and strokes, masked.**

A value that asks for the surrounding colour asks for the masking colour where it is masked, and
every other one asks for what it asked for. A link can come first; its identifier must not hold the
word.

* `LinkApart` — a value whose link does not hold the word;
* `paintParts?_masked` — the parts of a masked value;
* `parse?_of_asks`, `parse?_of_other` — what a masked value asks for.
-/

import IconComponents.Proofs.Svg.MaskedColor
import IconComponents.Proofs.Svg.PaintParts

namespace IconComponents.Svg

variable {mask text masked value id rest inner : Text} {green : Nat}

/-! ### Links -/

/-- What a link names is masked. -/
theorem linkedId?_maskWith (isMask : IsMask mask) (found : linkedId? inner = some (id, rest)) :
    linkedId? (maskWith mask inner) = some (maskWith mask id, maskWith mask rest) := by
  have marked (text : Text) : maskWith mask ('#' :: text) = '#' :: maskWith mask text :=
    maskWith_cons (by decide) text
  unfold linkedId? at found ⊢
  rw [skipSpace_maskWith isMask]
  split at found
  · next text start =>
    have passes : PassesWords fun c => c != ' ' && c != ')' :=
      (passesWords_bne (by decide) (by decide)).and (passesWords_bne (by decide) (by decide))
    obtain ⟨taken, left⟩ := maskWith_span isMask passes text
    simp only [Option.some.injEq, Prod.mk.injEq] at found
    obtain ⟨rfl, rfl⟩ := found
    rw [start, marked]
    simp only [taken, left]
  · next quote inside _ start =>
    split at found
    · next quoted =>
      have kind : Char.isWord quote = false ∧ quote ≠ '#' := by
        rcases (by simpa [isQuote] using quoted : quote = '"' ∨ quote = '\'') with rfl | rfl <;>
          decide
      rw [start, maskWith_cons kind.1]
      split at found
      · next text mark =>
        obtain ⟨taken, left⟩ := maskWith_span isMask (passesWords_bne kind.1 kind.2) text
        have head := List.head?_dropWhile_not (· != quote) text
        split at found
        · cases found
        · next d rest' split =>
          rw [split] at left head
          obtain rfl : d = quote := by simpa using head
          simp only [Option.some.injEq, Prod.mk.injEq] at found
          obtain ⟨rfl, rfl⟩ := found
          simp only [quoted, if_true, skipSpace_maskWith isMask, mark, marked, left, taken,
            maskWith_cons kind.1, trimEnd_maskWith isMask]
      · cases found
    · cases found
  · cases found

/-- **A link** without the word in its identifier is the same in a masked value. -/
theorem readLink?_maskWith (isMask : IsMask mask) (found : readLink? inner = some (id, rest))
    (silent : mentionsCurrentColor id = false) :
    readLink? (maskWith mask inner) = some (id, maskWith mask rest) := by
  obtain ⟨⟨id', behind⟩, linked, closed⟩ := Option.bind_eq_some_iff.mp found
  simp only at closed
  split at closed
  · next rest' bracket =>
    split at closed
    · cases closed
    · next unquoted =>
      obtain ⟨rfl, rfl⟩ := Prod.mk.inj (Option.some.inj closed)
      refine Option.bind_eq_some_iff.mpr ⟨_, linkedId?_maskWith isMask linked, ?_⟩
      have closing : maskWith mask (')' :: rest') = ')' :: maskWith mask rest' :=
        maskWith_cons (by decide) rest'
      simp only [skipSpace_maskWith isMask, bracket, closing, maskWith_of_silent silent]
      rw [if_neg unquoted]
  · cases closed

/-- **A value whose link, if it is one, is apart from the word**: the word is not in the identifier
that it names, nor anywhere in a link that is malformed. -/
def LinkApart (value : Text) : Prop :=
  ∀ inner, Text.after? "url(".toList (Text.trim value) = some inner →
    match readLink? inner with
    | some (id, _) => mentionsCurrentColor id = false ∧ '#' ∉ id
    | none => mentionsCurrentColor inner = false

/-- A value without a link has none that holds the word. -/
theorem linkApart_of_unlinked (unlinked : Text.after? "url(".toList (Text.trim value) = none) :
    LinkApart value := by
  intro inner found
  rw [unlinked] at found
  cases found

/-! ### Values -/

/-- What is behind the start of a link. -/
theorem after?_url_maskWith (isMask : IsMask mask) (text : Text) :
    Text.after? "url(".toList (maskWith mask text) =
      (Text.after? "url(".toList text).map (maskWith mask) := by
  have kept : isKept false "url(".toList = true := by decide
  have both := Alongside.after? isMask kept (Or.inl ⟨rfl⟩ : Alongside mask text _) nofun
  cases found : Text.after? "url(".toList text with
  | none =>
    rw [found] at both
    cases found' : Text.after? "url(".toList (maskWith mask text) with
    | none => rfl
    | some inner => rw [found'] at both; cases both
  | some inner =>
    have split := Text.after?_eq_some_iff.mp found
    have whole : maskWith mask text = "url(".toList ++ maskWith mask inner := by
      have name : maskWith mask "url".toList = "url".toList :=
        maskWith_of_silent
          (silent_of_isSolid ⟨by decide, List.all_eq_true.mp (by decide)⟩ (by decide))
      have cut : maskWith mask ("url".toList ++ '(' :: inner) =
          maskWith mask "url".toList ++ '(' :: maskWith mask inner :=
        maskWith_append_cons (by decide) _ _
      rw [name] at cut
      rw [split]
      exact cut
    rw [Option.map_some, Text.after?_eq_some_iff]
    exact whole

/-- **The parts of a masked value**: the link is the same, and the text of the paint is masked. -/
theorem paintParts?_masked (isMask : IsMask mask) (aligned : Aligned mask value masked)
    (apart : LinkApart value) : paintParts? masked =
      (paintParts? value).map fun (link?, text) => (link?, maskWith mask text) := by
  have trimmed := aligned.trim isMask
  unfold paintParts?
  rw [trimmed.same, after?_url_maskWith isMask]
  cases found : Text.after? "url(".toList (Text.trim value) with
  | none => rfl
  | some inner =>
    have apart := apart inner found
    rw [Option.map_some]
    simp only
    cases read : readLink? inner with
    | none =>
      rw [read] at apart
      rw [maskWith_of_silent apart, read]
      rfl
    | some link =>
      obtain ⟨id, rest⟩ := link
      rw [read] at apart
      rw [readLink?_maskWith isMask read apart.1, Option.map_some, Option.map_some,
        Option.map_some, skipSpace_maskWith isMask]

/-! ### Paints -/

/-- The word is no text that was masked. -/
theorem maskWith_ne_currentColor (isMask : IsMask mask) (text : Text) :
    maskWith mask text ≠ currentColor := by
  intro same
  have unmarked : '#' ∉ maskWith mask text := by
    rw [same]
    decide
  have silent := silent_of_unmarked isMask unmarked
  rw [maskWith_of_silent silent] at same
  rw [same, mentionsCurrentColor_currentColor] at silent
  cases silent

theorem Paint.parse?_maskColor (byte : green < 256) :
    Paint.parse? (maskColor green) = some (.color ⟨254, green, 254, 255⟩) := by
  have other : ∀ word : Text, word.head? ≠ some '#' → maskColor green ≠ word := by
    rintro _ starts rfl
    exact starts rfl
  rw [Paint.parse?, if_neg (other _ (by decide)), if_neg (other _ (by decide)),
    Color.parse?_maskColor byte]
  rfl

/-- The words for no paint neither hold the word nor start with a mark. -/
theorem silent_of_mem_borrowedPaints {word : Text} (member : word ∈ borrowedPaints) :
    mentionsCurrentColor word = false ∧ '#' ∉ word := by
  have table : ∀ word ∈ borrowedPaints, mentionsCurrentColor word = false ∧ '#' ∉ word := by
    unfold borrowedPaints
    decide +kernel
  exact table word member

theorem borrowedPaints_maskColor (green : Nat) :
    borrowedPaints.contains (maskColor green) = false := by
  rw [← Bool.not_eq_true, List.contains_iff_mem]
  exact fun member => (silent_of_mem_borrowedPaints member).2 List.mem_cons_self

/-- A value that is the masking colour asks for that colour. -/
theorem PaintValue.parse?_maskColor (byte : green < 256) (named : Text.trim value = maskColor green) :
    PaintValue.parse? value = some ⟨none, .color ⟨254, green, 254, 255⟩⟩ := by
  have parts : paintParts? value = some (none, maskColor green) := by
    rw [paintParts?, named]
    rfl
  rw [PaintValue.parse?_eq, parts, Option.bind_some]
  simp only [borrowedPaints_maskColor, Option.isNone_none, Option.isSome_none, Bool.and_false,
    Bool.false_and, Bool.or_self, Bool.false_eq_true, if_false, Paint.parse?_maskColor byte,
    Option.map_some]

/-- **A paint** that is the word is the masking colour where it is masked, and every other one stays
what it is. -/
theorem Paint.parse?_masked (byte : green < 256) (aligned : Aligned (maskColor green) text masked)
    (bare : IsBare text) : Paint.parse? masked =
      if isCurrentColor text then some (.color ⟨254, green, 254, 255⟩) else Paint.parse? text := by
  have isMask := isMask_maskColor byte
  have silent : mentionsCurrentColor "none".toList = false :=
    silent_of_isSolid ⟨by decide, List.all_eq_true.mp (by decide)⟩ (by decide)
  have none := aligned.eq_iff isMask silent (by decide)
  split
  · next named =>
    rw [aligned.same, maskWith_of_isCurrentColor named, Paint.parse?_maskColor byte]
  · next other =>
    have different : text ≠ currentColor := by
      rintro rfl
      exact other isCurrentColor_currentColor
    have different' : masked ≠ currentColor := aligned.same ▸ maskWith_ne_currentColor isMask text
    have color := Color.parse?_masked byte aligned fun word blanks split blank => by
      rw [← Bool.not_eq_true]
      exact fun named => other (isCurrentColor_of_isBare bare split blank named)
    unfold Paint.parse?
    rw [color, if_neg (show masked ≠ "currentColor".toList from different'),
      if_neg (show text ≠ "currentColor".toList from different)]
    simp only [none]

theorem borrowedPaints_masked (isMask : IsMask mask) (aligned : Aligned mask text masked) :
    borrowedPaints.contains masked = borrowedPaints.contains text := by
  rw [Bool.eq_iff_iff, List.contains_iff_mem, List.contains_iff_mem]
  constructor
  · intro member
    obtain ⟨silent, unmarked⟩ := silent_of_mem_borrowedPaints member
    rwa [(aligned.eq_iff isMask silent unmarked).mp rfl]
  · intro member
    obtain ⟨silent, unmarked⟩ := silent_of_mem_borrowedPaints member
    rwa [(aligned.eq_iff isMask silent unmarked).mpr rfl]

/-! ### Values of fills and strokes -/

section

variable (byte : green < 256) (aligned : Aligned (maskColor green) value masked)
  (apart : LinkApart value)

include byte aligned apart

/-- **A value that asks for the surrounding colour** asks for the masking colour where it is
masked. -/
theorem parse?_of_asks (asks : asksForCurrent value = true) :
    PaintValue.parse? masked = some ⟨linked? value, .color ⟨254, green, 254, 255⟩⟩ := by
  have isMask := isMask_maskColor byte
  cases parts : paintParts? value with
  | none =>
    rw [asksForCurrent, parts] at asks
    cases asks
  | some both =>
    obtain ⟨link?, text⟩ := both
    rw [asksForCurrent, parts, Option.any_some] at asks
    have some : (maskColor green).isEmpty = false := rfl
    rw [PaintValue.parse?_eq, paintParts?_masked isMask aligned apart, parts, Option.map_some,
      Option.bind_some]
    simp only [maskWith_of_isCurrentColor asks, borrowedPaints_maskColor, some, Bool.and_false,
      Bool.or_self, Bool.false_eq_true, if_false, Paint.parse?_maskColor byte, Option.map_some,
      linked?, parts, Option.bind_some]

/-- **Every other value** asks for what it asked for. -/
theorem parse?_of_other (other : asksForCurrent value = false) :
    PaintValue.parse? masked = PaintValue.parse? value := by
  have isMask := isMask_maskColor byte
  rw [PaintValue.parse?_eq, PaintValue.parse?_eq, paintParts?_masked isMask aligned apart]
  cases parts : paintParts? value with
  | none => rfl
  | some both =>
    obtain ⟨link?, text⟩ := both
    rw [asksForCurrent, parts, Option.any_some] at other
    simp only at other
    have bare := isBare_of_paintParts? parts
    have texts : Aligned (maskColor green) text (maskWith (maskColor green) text) := ⟨rfl⟩
    have paint := Paint.parse?_masked byte texts bare
    rw [other, if_neg Bool.false_ne_true] at paint
    rw [Option.map_some, Option.bind_some, Option.bind_some]
    simp only
    rw [paint, borrowedPaints_masked isMask texts, texts.alongside.isEmpty_eq isMask]

end

end IconComponents.Svg
