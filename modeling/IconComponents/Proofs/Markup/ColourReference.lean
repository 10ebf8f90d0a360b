/-
**References to colour properties.**

A component's markup refers to its properties as `fill={fill}` and `fill={fill[2]}`. The recogniser
of such references knows nothing about how they came into the text, and reads any index.

* `ColourReference.recognise` — a reference at the front of a text;
* `ColourReference.IsBody` — what may stand in its braces;
* `of_recognise`, `recognise_append` — a reference is read exactly where one is written.
-/

import IconComponents.Proofs.Markup.Occurrence
import IconComponents.Proofs.Text.Digits

namespace IconComponents

/-- A reference to the property of a colour, to one of its members if there is an index. -/
structure ColourReference where
  paint : PaintAttribute
  index? : Option Nat
  deriving Repr, DecidableEq

namespace ColourReference

/-- Reads what stands behind the name in braces, and the closing brace. -/
def ending? : Text → Option (Option Nat × Text)
  | '\x7d' :: rest => some (none, rest)
  | '[' :: text =>
    match text.dropWhile Char.isDigit with
    | ']' :: '\x7d' :: rest =>
      let digits := text.takeWhile Char.isDigit
      if digits = [] then none else some (some (Text.numberOf 10 digits), rest)
    | _ => none
  | _ => none

theorem length_lt_of_ending? {text rest : Text} {index? : Option Nat}
    (found : ending? text = some (index?, rest)) : rest.length < text.length := by
  unfold ending? at found
  split at found
  · cases found
    simp
  · next text =>
    split at found
    · next behind tail =>
      have dropped := Text.length_dropWhile_le Char.isDigit text
      simp only at found
      split at found
      · cases found
      · obtain ⟨-, rfl⟩ := Prod.mk.inj (Option.some.inj found)
        rw [tail] at dropped
        simp only [List.length_cons] at dropped ⊢
        omega
    · cases found
  · cases found

/-- The text before the ending. -/
def opening (paint : PaintAttribute) : Text := paint.name ++ '=' :: '\x7b' :: paint.name

/-- Reads a reference to one property. -/
def recogniseOf (paint : PaintAttribute) : Recogniser ColourReference := fun text =>
  match start : Text.after? (opening paint) text with
  | none => none
  | some after =>
    match ended : ending? after with
    | none => none
    | some (index?, rest) => some ⟨⟨paint, index?⟩, rest, by
        have := length_lt_of_ending? ended
        rw [Text.after?_eq_some_iff.mp start, List.length_append]
        omega⟩

/-- Reads a reference to either property. -/
def recognise : Recogniser ColourReference := fun text =>
  match recogniseOf .fill text with
  | some hit => some hit
  | none => recogniseOf .stroke text

/-! ### What a reference is -/

/-- What may stand in the braces of a reference. -/
inductive IsBody : ColourReference → Text → Prop where
  | whole (paint : PaintAttribute) : IsBody ⟨paint, none⟩ paint.name
  | member (paint : PaintAttribute) (digits : Text) (nonempty : digits ≠ [])
      (areDigits : ∀ c ∈ digits, c.isDigit = true) :
      IsBody ⟨paint, some (Text.numberOf 10 digits)⟩ (paint.name ++ '[' :: (digits ++ [']']))

theorem IsBody.equals_not_mem {reference : ColourReference} {body : Text}
    (isBody : IsBody reference body) : '=' ∉ body := by
  cases isBody with
  | whole paint => exact PaintAttribute.equals_not_mem_name paint
  | member paint digits nonempty areDigits =>
    have free : '=' ∉ digits := fun member => absurd (areDigits _ member) (by decide)
    simp [PaintAttribute.equals_not_mem_name paint, free]

theorem isBody_of_ending? (paint : PaintAttribute) {text rest : Text} {index? : Option Nat}
    (found : ending? text = some (index?, rest)) :
    ∃ body, IsBody ⟨paint, index?⟩ body ∧ paint.name ++ text = body ++ '\x7d' :: rest := by
  unfold ending? at found
  split at found
  · cases found
    exact ⟨_, IsBody.whole paint, rfl⟩
  · next text =>
    split at found
    · next behind tail =>
      simp only at found
      split at found
      · cases found
      · next nonempty =>
        obtain ⟨rfl, rfl⟩ := Prod.mk.inj (Option.some.inj found)
        refine ⟨_, IsBody.member paint _ nonempty fun c member => List.mem_takeWhile_imp member, ?_⟩
        have split := List.takeWhile_append_dropWhile (p := Char.isDigit) (l := text)
        rw [tail] at split
        conv_lhs => rw [← split]
        simp
    · cases found
  · cases found

theorem ending?_of_isBody {reference : ColourReference} {body : Text}
    (isBody : IsBody reference body) (rest : Text) :
    ∃ text, body ++ '\x7d' :: rest = reference.paint.name ++ text ∧
      ending? text = some (reference.index?, rest) := by
  cases isBody with
  | whole paint => exact ⟨_, rfl, rfl⟩
  | member paint digits nonempty areDigits =>
    refine ⟨'[' :: (digits ++ ']' :: '\x7d' :: rest), by simp, ?_⟩
    have taken : (digits ++ ']' :: '\x7d' :: rest).takeWhile Char.isDigit = digits := by
      rw [List.takeWhile_append_of_pos areDigits, List.takeWhile_cons_of_neg (by decide),
        List.append_nil]
    have dropped : (digits ++ ']' :: '\x7d' :: rest).dropWhile Char.isDigit =
        ']' :: '\x7d' :: rest := by
      rw [List.dropWhile_append_of_pos areDigits, List.dropWhile_cons_of_neg (by decide)]
    rw [ending?, dropped]
    simp only [taken]
    rw [if_neg nonempty]

/-! ### Reading a reference -/

theorem of_recogniseOf {paint : PaintAttribute} {text : Text} {hit : Hit ColourReference text}
    (found : recogniseOf paint text = some hit) :
    hit.value.paint = paint ∧
      ∃ body, IsBody hit.value body ∧ text = paint.reference body ++ hit.rest := by
  unfold recogniseOf at found
  split at found
  · cases found
  · next after start =>
    split at found
    · cases found
    · next index? rest ended =>
      cases found
      obtain ⟨body, isBody, same⟩ := isBody_of_ending? paint ended
      refine ⟨rfl, body, isBody, (Text.after?_eq_some_iff.mp start).trans ?_⟩
      simp only [opening, List.append_assoc, List.cons_append]
      rw [same]
      simp [PaintAttribute.reference]

/-- What is recognised is a reference as it is written. -/
theorem of_recognise {text : Text} {hit : Hit ColourReference text}
    (found : recognise text = some hit) :
    ∃ body, IsBody hit.value body ∧ text = hit.value.paint.reference body ++ hit.rest := by
  unfold recognise at found
  split at found
  · next other read =>
    cases found
    obtain ⟨own, body, isBody, split⟩ := of_recogniseOf read
    exact ⟨body, isBody, by rw [own]; exact split⟩
  · obtain ⟨own, body, isBody, split⟩ := of_recogniseOf found
    exact ⟨body, isBody, by rw [own]; exact split⟩

theorem recogniseOf_append {reference : ColourReference} {body : Text}
    (isBody : IsBody reference body) (rest : Text) :
    ∃ hit, recogniseOf reference.paint (reference.paint.reference body ++ rest) = some hit ∧
      hit.value = reference ∧ hit.rest = rest := by
  obtain ⟨text, split, ended⟩ := ending?_of_isBody isBody rest
  have start : Text.after? (opening reference.paint) (reference.paint.reference body ++ rest) =
      some text := by
    rw [Text.after?_eq_some_iff]
    simp only [PaintAttribute.reference, opening, List.append_assoc, List.cons_append,
      List.nil_append]
    rw [split]
  unfold recogniseOf
  split
  · next none => rw [start] at none; cases none
  · next after same =>
    rw [start] at same
    cases same
    split
    · next none => rw [ended] at none; cases none
    · next index? behind same =>
      rw [ended] at same
      cases same
      exact ⟨_, rfl, rfl, rfl⟩

/-- A reference as it is written is recognised. -/
theorem recognise_append {reference : ColourReference} {body : Text}
    (isBody : IsBody reference body) (rest : Text) :
    ∃ hit, recognise (reference.paint.reference body ++ rest) = some hit ∧
      hit.value = reference ∧ hit.rest = rest := by
  obtain ⟨hit, read, valueEq, restEq⟩ := recogniseOf_append isBody rest
  unfold recognise
  obtain ⟨paint, index?⟩ := reference
  cases paint with
  | fill => exact ⟨hit, by rw [read], valueEq, restEq⟩
  | stroke =>
    have noFill : recogniseOf .fill (PaintAttribute.stroke.reference body ++ rest) = none := by
      rw [Option.eq_none_iff_forall_ne_some]
      intro other found
      obtain ⟨-, inner, -, split⟩ := of_recogniseOf found
      exact absurd (List.cons.inj split).1 (by decide)
    exact ⟨hit, by rw [noFill, read], valueEq, restEq⟩

theorem isBody_placeholder (paint : PaintAttribute) (index? : Option Nat) :
    IsBody ⟨paint, index?⟩ (paint.body index?) := by
  cases index? with
  | none => exact IsBody.whole paint
  | some index =>
    have body := IsBody.member paint (Text.ofNat index) Nat.toDigits_ne_nil
      fun c => Text.isDigit_ofNat
    rwa [Text.numberOf_ofNat] at body

end ColourReference

end IconComponents
