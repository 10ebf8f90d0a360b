/-
**Where a colour can start.**

Fill and stroke attributes are found in flat text, so what matters is at which characters one can
start. It cannot start inside a placeholder, and it starts inside a written attribute only if the
value of that one ends in `fill=` or `stroke=` — which would make a value its closing quote opens.

* `PaintAttribute.recognise_written`, `of_recognise` — an attribute is read exactly where it is
  written;
* `Occurrence` — an attribute of either kind with its value, and the recogniser of both kinds;
* `opening_in_written`, `opening_in_reference` — the two facts on starts above;
* `refuses_written`, `refuses_placeholder` — the same said as stretches without a hit.
-/

import IconComponents.Markup.Placeholder
import IconComponents.Proofs.Text.Scan

namespace IconComponents

namespace PaintAttribute

variable {paint other : PaintAttribute}

/-- What is said of both attributes is decided attribute by attribute. -/
instance decidableForall {p : PaintAttribute → Prop} [DecidablePred p] :
    Decidable (∀ paint, p paint) :=
  decidable_of_iff (p .fill ∧ p .stroke)
    ⟨fun both paint => by cases paint; exacts [both.1, both.2], fun all => ⟨all _, all _⟩⟩

/-! ### Reading one attribute -/

theorem written_append (value rest : Text) :
    paint.written value ++ rest = paint.opening ++ (value ++ '"' :: rest) := by
  simp [written]

theorem recognise_written (paint : PaintAttribute) {value : Text} (plain : '"' ∉ value) (rest : Text) :
    ∃ hit, paint.recognise (paint.written value ++ rest) = some hit ∧ hit.value = value ∧
      hit.rest = rest := by
  have start : Text.after? paint.opening (paint.written value ++ rest) =
      some (value ++ '"' :: rest) := Text.after?_eq_some_iff.mpr (written_append value rest)
  unfold recognise
  split
  · next none => rw [start] at none; cases none
  · next after found =>
    rw [start] at found
    cases found
    have quoted := Text.quotedEnd?_append plain rest
    split
    · next none => rw [quoted] at none; cases none
    · next read behind same =>
      rw [quoted] at same
      cases same
      exact ⟨_, rfl, rfl, rfl⟩

theorem of_recognise {text : Text} {hit : Hit Text text} (found : paint.recognise text = some hit) :
    text = paint.written hit.value ++ hit.rest ∧ '"' ∉ hit.value := by
  unfold recognise at found
  split at found
  · cases found
  · next after start =>
    split at found
    · cases found
    · next value rest quoted =>
      cases found
      refine ⟨?_, Text.plain_of_quotedEnd? quoted⟩
      rw [written_append, ← Text.eq_of_quotedEnd? quoted]
      exact Text.after?_eq_some_iff.mp start

theorem hits_written {value : Text} (plain : '"' ∉ value) (rest : Text) :
    paint.recognise.hits (paint.written value ++ rest) = value :: paint.recognise.hits rest := by
  obtain ⟨hit, read, valueEq, restEq⟩ := recognise_written paint plain rest
  rw [Recogniser.hits_of_some read, valueEq, restEq]

theorem recognise_eq_none_iff {text : Text} :
    paint.recognise text = none ↔ ∀ rest, text = paint.opening ++ rest → '"' ∉ rest := by
  constructor
  · intro refused rest same member
    obtain ⟨value, behind, rfl, plain⟩ := List.eq_append_cons_of_mem member
    rw [← written_append] at same
    have taken := recognise_written paint plain behind
    rw [← same] at taken
    obtain ⟨hit, found, -⟩ := taken
    rw [refused] at found
    cases found
  · intro open?
    rw [Option.eq_none_iff_forall_ne_some]
    intro hit found
    obtain ⟨same, -⟩ := of_recognise found
    rw [written_append] at same
    exact open? _ same (List.mem_append_right _ List.mem_cons_self)

/-! ### Starts inside other text -/

theorem opening_append (rest : Text) :
    paint.opening ++ rest = paint.name ++ '=' :: '"' :: rest := by
  simp [opening]

theorem equals_not_mem_name (paint : PaintAttribute) : '=' ∉ paint.name := by cases paint <;> decide

/-- No attribute's name ends in another one's. -/
theorem eq_of_name_suffix {ahead : Text} (split : paint.name = ahead ++ other.name) :
    ahead = [] ∧ other = paint := by
  have lasts : paint.name.getLast? = other.name.getLast? := by
    rw [split, List.getLast?_append]
    cases other <;> rfl
  have same : other = paint := by
    cases paint <;> cases other <;> first | rfl | exact absurd lasts (by decide)
  subst same
  exact ⟨List.append_left_eq_self.mp split.symm, rfl⟩

/-- **Where an attribute starts inside a written one**: at its front only, unless the value ends in
a name with `=` behind it. -/
theorem opening_in_written {value ahead tail behind rest : Text} (plain : '"' ∉ value)
    (separate : ¬ other.name ++ ['='] <:+ value) (split : paint.written value = ahead ++ tail)
    (nonempty : tail ≠ []) (start : tail ++ behind = other.opening ++ rest) :
    ahead = [] ∧ other = paint := by
  have shape : paint.name ++ ('=' :: '"' :: (value ++ ['"'])) = ahead ++ tail := by
    rw [← split]
    simp [written, opening]
  rw [opening_append] at start
  rcases List.append_eq_append_iff.mp shape with ⟨gap, -, behindName⟩ | ⟨gap, nameEq, tailEq⟩
  · rcases gap with _ | ⟨first, _ | ⟨second, gap⟩⟩
    · rw [List.nil_append] at behindName
      rw [← behindName] at start
      cases other <;> exact absurd (List.cons.inj start).1 (by decide)
    · have tailEq : '"' :: (value ++ ['"']) = tail := (List.cons.inj behindName).2
      rw [← tailEq] at start
      cases other <;> exact absurd (List.cons.inj start).1 (by decide)
    · have inside : value ++ ['"'] = gap ++ tail := (List.cons.inj (List.cons.inj behindName).2).2
      obtain ⟨inner, rfl, rfl⟩ := Text.concat_of_append_eq nonempty inside
      have quoteFree : '"' ∉ inner := fun member => plain (List.mem_append_right _ member)
      have nameFree : '"' ∉ other.name ++ ['='] := by cases other <;> decide
      have cut : inner ++ '"' :: behind = (other.name ++ ['=']) ++ '"' :: rest := by
        simpa using start
      rw [(Text.append_cons_inj quoteFree nameFree cut).1] at separate
      exact absurd (List.suffix_append _ _) separate
  · rw [tailEq, List.append_assoc] at start
    have gapFree : '=' ∉ gap := fun member =>
      equals_not_mem_name paint (nameEq ▸ List.mem_append_right _ member)
    have gapEq := (Text.append_cons_inj gapFree (equals_not_mem_name other) start).1
    rw [gapEq] at nameEq
    exact eq_of_name_suffix nameEq

/-- A name, `=`, and a text in braces. -/
def reference (paint : PaintAttribute) (body : Text) : Text :=
  paint.name ++ '=' :: '\x7b' :: (body ++ ['\x7d'])

/-- **Where a name with `=` behind it starts inside a reference**: at its front only. -/
theorem name_in_reference {body ahead tail behind rest : Text} (free : '=' ∉ body)
    (split : paint.reference body = ahead ++ tail) (nonempty : tail ≠ [])
    (start : tail ++ behind = other.name ++ '=' :: rest) : ahead = [] ∧ other = paint := by
  rcases List.append_eq_append_iff.mp split with ⟨gap, -, behindName⟩ | ⟨gap, nameEq, tailEq⟩
  · exfalso
    rcases gap with _ | ⟨first, gap⟩
    · rw [List.nil_append] at behindName
      rw [← behindName] at start
      cases other <;> exact absurd (List.cons.inj start).1 (by decide)
    · have inside : ('\x7b' :: body) ++ ['\x7d'] = gap ++ tail := (List.cons.inj behindName).2
      obtain ⟨inner, bodyEq, rfl⟩ := Text.concat_of_append_eq nonempty inside
      have innerFree : '=' ∉ inner := fun member => by
        have : '=' ∈ '\x7b' :: body := bodyEq ▸ List.mem_append_right _ member
        simp [free] at this
      rw [List.append_assoc] at start
      refine Text.name_not_start innerFree ?_ (by decide) start
      cases other <;> decide
  · rw [tailEq, List.append_assoc] at start
    have gapFree : '=' ∉ gap := fun member =>
      equals_not_mem_name paint (nameEq ▸ List.mem_append_right _ member)
    rw [(Text.append_cons_inj gapFree (equals_not_mem_name other) start).1] at nameEq
    exact eq_of_name_suffix nameEq

/-- **No attribute starts inside a reference.** -/
theorem opening_in_reference {body ahead tail behind rest : Text} (free : '=' ∉ body)
    (split : paint.reference body = ahead ++ tail) (nonempty : tail ≠ []) :
    tail ++ behind ≠ other.opening ++ rest := by
  intro start
  rw [opening_append] at start
  obtain ⟨rfl, rfl⟩ := name_in_reference free split nonempty start
  rw [List.nil_append] at split
  rw [← split, reference, List.append_assoc] at start
  exact absurd (List.cons.inj (List.cons.inj (List.append_cancel_left start)).2).1 (by decide)

/-- What stands in the braces of a placeholder. -/
def body (paint : PaintAttribute) : Option Nat → Text
  | none => paint.name
  | some index => paint.name ++ '[' :: (Text.ofNat index ++ [']'])

theorem placeholder_eq (paint : PaintAttribute) (index? : Option Nat) :
    paint.placeholder index? = paint.reference (paint.body index?) := by
  cases index? <;> simp [placeholder, reference, body]

theorem equals_not_mem_body (paint : PaintAttribute) (index? : Option Nat) :
    '=' ∉ paint.body index? := by
  cases index? with
  | none => exact equals_not_mem_name paint
  | some index =>
    have digits : '=' ∉ Text.ofNat index := fun member =>
      absurd (Text.isDigit_ofNat member) (by decide)
    simp [body, equals_not_mem_name paint, digits]

/-! ### Stretches without a start -/

theorem recognise_eq_none {text : Text} (elsewhere : ∀ rest, text ≠ paint.opening ++ rest) :
    paint.recognise text = none :=
  recognise_eq_none_iff.mpr fun rest start => absurd start (elsewhere rest)

theorem refuses_placeholder (index? : Option Nat) (behind : Text) :
    Recogniser.Refuses other.recognise (paint.placeholder index?) behind :=
  fun _ _ split nonempty => recognise_eq_none fun _ =>
    opening_in_reference (equals_not_mem_body paint index?) (placeholder_eq paint index? ▸ split)
      nonempty

theorem refuses_written {value : Text} (plain : '"' ∉ value)
    (separate : ¬ other.name ++ ['='] <:+ value) (different : other ≠ paint) (behind : Text) :
    Recogniser.Refuses other.recognise (paint.written value) behind :=
  fun _ _ split nonempty => recognise_eq_none fun _ start =>
    different (opening_in_written plain separate split nonempty start).2

theorem literal_eq_none {text : Text} (refused : paint.recognise text = none) (value : Text) :
    Recogniser.literal (paint.written value) text = none := by
  refine Recogniser.literal_eq_none fun rest start => ?_
  rw [written_append] at start
  exact recognise_eq_none_iff.mp refused _ start (List.mem_append_right _ List.mem_cons_self)

theorem literal_refuses {stretch behind : Text}
    (refuses : Recogniser.Refuses paint.recognise stretch behind) (value : Text) :
    Recogniser.Refuses (Recogniser.literal (paint.written value)) stretch behind :=
  fun ahead tail split nonempty => literal_eq_none (refuses ahead tail split nonempty) value

/-- A written attribute is not found inside another one. -/
theorem literal_refuses_written {value needle : Text} (plain : '"' ∉ value)
    (needlePlain : '"' ∉ needle) (separate : ¬ other.name ++ ['='] <:+ value)
    (different : other.written needle ≠ paint.written value) (behind : Text) :
    Recogniser.Refuses (Recogniser.literal (other.written needle)) (paint.written value) behind := by
  intro ahead tail split nonempty
  refine Recogniser.literal_eq_none fun rest start => ?_
  rw [written_append] at start
  obtain ⟨rfl, rfl⟩ := opening_in_written plain separate split nonempty start
  rw [List.nil_append] at split
  rw [← split, written_append] at start
  have same := List.append_cancel_left start
  exact different (by rw [(Text.append_cons_inj plain needlePlain same).1])

end PaintAttribute

/-! ### Attributes of either kind -/

/-- An attribute that colours a shape, with the value it is written with. -/
structure Occurrence where
  paint : PaintAttribute
  value : Text
  deriving Repr, DecidableEq

namespace Occurrence

/-- The attribute as it is written. -/
def written (occurrence : Occurrence) : Text := occurrence.paint.written occurrence.value

/-- Reads a fill or a stroke at the front of a text. -/
def recognise : Recogniser Occurrence := fun text =>
  match PaintAttribute.fill.recognise text with
  | some hit => some ⟨⟨.fill, hit.value⟩, hit.rest, hit.shorter⟩
  | none => (PaintAttribute.stroke.recognise text).map fun hit =>
      ⟨⟨.stroke, hit.value⟩, hit.rest, hit.shorter⟩

theorem of_recognise {text : Text} {hit : Hit Occurrence text} (found : recognise text = some hit) :
    text = hit.value.written ++ hit.rest ∧ '"' ∉ hit.value.value := by
  unfold recognise at found
  split at found
  · next inner read =>
    cases found
    exact PaintAttribute.of_recognise read
  · obtain ⟨inner, read, rfl⟩ := Option.map_eq_some_iff.mp found
    exact PaintAttribute.of_recognise read

theorem recognise_eq_none_iff {text : Text} :
    recognise text = none ↔ ∀ paint : PaintAttribute, paint.recognise text = none := by
  unfold recognise
  constructor
  · intro refused paint
    split at refused
    · cases refused
    · next noFill =>
      cases paint with
      | fill => exact noFill
      | stroke => exact Option.map_eq_none_iff.mp refused
  · intro refused
    rw [refused .fill, refused .stroke]
    rfl

theorem recognise_written (occurrence : Occurrence) (plain : '"' ∉ occurrence.value) (rest : Text) :
    ∃ hit, recognise (occurrence.written ++ rest) = some hit ∧ hit.value = occurrence ∧
      hit.rest = rest := by
  obtain ⟨paint, value⟩ := occurrence
  obtain ⟨own, read, valueEq, restEq⟩ := PaintAttribute.recognise_written paint plain rest
  unfold recognise
  cases paint with
  | fill =>
    simp only [written]
    rw [read]
    exact ⟨_, rfl, congrArg (Occurrence.mk .fill) valueEq, restEq⟩
  | stroke =>
    have noFill : PaintAttribute.fill.recognise (PaintAttribute.stroke.written value ++ rest) =
        none := PaintAttribute.recognise_eq_none fun behind start =>
      absurd (List.cons.inj start).1 (by decide)
    simp only [written]
    rw [noFill, read]
    exact ⟨_, rfl, congrArg (Occurrence.mk .stroke) valueEq, restEq⟩

theorem hits_written {occurrence : Occurrence} (plain : '"' ∉ occurrence.value) (rest : Text) :
    recognise.hits (occurrence.written ++ rest) = occurrence :: recognise.hits rest := by
  obtain ⟨hit, read, valueEq, restEq⟩ := recognise_written occurrence plain rest
  rw [Recogniser.hits_of_some read, valueEq, restEq]

theorem rewrite_written {render : Occurrence → Text} {occurrence : Occurrence}
    (plain : '"' ∉ occurrence.value) (rest : Text) :
    recognise.rewrite render (occurrence.written ++ rest) =
      render occurrence ++ recognise.rewrite render rest := by
  obtain ⟨hit, read, valueEq, restEq⟩ := recognise_written occurrence plain rest
  rw [Recogniser.rewrite_of_some read, valueEq, restEq]

/-- **Induction along the scan for both attributes.** -/
@[elab_as_elim]
theorem scan_induction {motive : Text → Prop} (nil : motive [])
    (plain : ∀ c text, (∀ paint : PaintAttribute, paint.recognise (c :: text) = none) →
      motive text → motive (c :: text))
    (written : ∀ (occurrence : Occurrence) rest, '"' ∉ occurrence.value → motive rest →
      motive (occurrence.written ++ rest))
    (text : Text) : motive text := by
  induction text using Recogniser.scan_induction recognise with
  | nil => exact nil
  | plain c text refused ih => exact plain c text (recognise_eq_none_iff.mp refused) ih
  | hit text hit found ih =>
    obtain ⟨split, free⟩ := of_recognise found
    have step := written hit.value hit.rest free ih
    rwa [← split] at step

end Occurrence

end IconComponents
