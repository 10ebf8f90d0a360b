/-
**Laws of scanning.**

A scan is determined by what happens at its front: either something is taken there, or the first
character is passed over. `scan_induction` follows a scan in this way, and everything else here is
said about stretches of text:

* `Recogniser.Refuses` — no hit starts inside a stretch of text, whatever the text behind it holds;
* `rewrite_append_of_refuses`, `hits_append_of_refuses` — such a stretch is passed over character by
  character;
* `hits_eq_nil_iff` — nothing is found exactly if no hit starts anywhere;
* `Recogniser.StopsAt`, `scan_append_cons` — a text is scanned in pieces between characters that no
  hit reaches;
* `Text.replaceAll_eq_rewrite` — replacing a needle is a scan for that needle, so the same laws hold
  of it.
-/

import Mathlib.Data.List.Basic
import Mathlib.Data.List.TakeWhile
import IconComponents.Text.Digits
import IconComponents.Text.Scan

namespace IconComponents

namespace Recogniser

variable {α : Type} {recognise : Recogniser α} {render : α → Text}

/-! ### One step of a scan -/

theorem scan_of_some {text : Text} {hit : Hit α text} (found : recognise text = some hit) :
    scan recognise text = .hit hit.value :: scan recognise hit.rest := by
  cases text with
  | nil => exact absurd hit.shorter (Nat.not_lt_zero _)
  | cons c text =>
    rw [scan]
    split
    · next other same =>
      rw [found] at same
      cases same
      rfl
    · next none => rw [found] at none; cases none

theorem scan_of_none {c : Char} {text : Text} (refused : recognise (c :: text) = none) :
    scan recognise (c :: text) = .plain c :: scan recognise text := by
  rw [scan]
  split
  · next hit found => rw [refused] at found; cases found
  · rfl

theorem rewrite_of_some {text : Text} {hit : Hit α text} (found : recognise text = some hit) :
    rewrite recognise render text = render hit.value ++ rewrite recognise render hit.rest := by
  rw [rewrite, scan_of_some found, List.flatMap_cons]
  rfl

theorem rewrite_of_none {c : Char} {text : Text} (refused : recognise (c :: text) = none) :
    rewrite recognise render (c :: text) = c :: rewrite recognise render text := by
  rw [rewrite, scan_of_none refused, List.flatMap_cons]
  rfl

theorem hits_of_some {text : Text} {hit : Hit α text} (found : recognise text = some hit) :
    hits recognise text = hit.value :: hits recognise hit.rest := by
  rw [hits, scan_of_some found, List.filterMap_cons]
  rfl

theorem hits_of_none {c : Char} {text : Text} (refused : recognise (c :: text) = none) :
    hits recognise (c :: text) = hits recognise text := by
  rw [hits, scan_of_none refused, List.filterMap_cons]
  rfl

@[simp] theorem scan_nil : scan recognise [] = [] := by rw [scan]

@[simp] theorem rewrite_nil : rewrite recognise render [] = [] := by rw [rewrite, scan_nil]; rfl

@[simp] theorem hits_nil : hits recognise [] = [] := by rw [hits, scan_nil]; rfl

/-- **Induction along a scan**: a text is empty, or its first character is passed over, or something
is taken from its front. -/
@[elab_as_elim]
theorem scan_induction (recognise : Recogniser α) {motive : Text → Prop} (nil : motive [])
    (plain : ∀ c text, recognise (c :: text) = none → motive text → motive (c :: text))
    (hit : ∀ text (hit : Hit α text), recognise text = some hit → motive hit.rest → motive text)
    (text : Text) : motive text := by
  induction size : text.length using Nat.strongRecOn generalizing text with
  | _ n ih =>
    subst size
    cases text with
    | nil => exact nil
    | cons c text =>
      cases outcome : recognise (c :: text) with
      | none => exact plain c text outcome (ih _ (Nat.lt_succ_self _) text rfl)
      | some found => exact hit _ found outcome (ih _ found.shorter found.rest rfl)

/-- Two ways of writing hits that agree on the hits of a text rewrite it alike. -/
theorem rewrite_congr {other : α → Text} {text : Text}
    (agree : ∀ value ∈ hits recognise text, render value = other value) :
    rewrite recognise render text = rewrite recognise other text := by
  induction text using scan_induction recognise with
  | nil => rw [rewrite_nil, rewrite_nil]
  | plain c text refused ih =>
    rw [rewrite_of_none refused, rewrite_of_none refused, ih]
    rwa [hits_of_none refused] at agree
  | hit text hit found ih =>
    rw [hits_of_some found] at agree
    rw [rewrite_of_some found, rewrite_of_some found, agree _ List.mem_cons_self,
      ih fun value member => agree value (List.mem_cons_of_mem _ member)]

/-! ### Stretches without a hit -/

/-- No hit starts inside `stretch` when `behind` follows it. -/
def Refuses (recognise : Recogniser α) (stretch behind : Text) : Prop :=
  ∀ ahead tail, stretch = ahead ++ tail → tail ≠ [] → recognise (tail ++ behind) = none

theorem Refuses.head {c : Char} {stretch behind : Text}
    (refuses : Refuses recognise (c :: stretch) behind) :
    recognise (c :: (stretch ++ behind)) = none :=
  refuses [] (c :: stretch) rfl (List.cons_ne_nil _ _)

theorem Refuses.tail {c : Char} {stretch behind : Text}
    (refuses : Refuses recognise (c :: stretch) behind) : Refuses recognise stretch behind :=
  fun ahead tail split => refuses (c :: ahead) tail (by rw [split, List.cons_append])

/-- No hit starts in a stretch whose characters all start none. -/
theorem refuses_of_forall {passes : Char → Prop}
    (refused : ∀ c text, passes c → recognise (c :: text) = none) {stretch : Text}
    (all : ∀ c ∈ stretch, passes c) (behind : Text) : Refuses recognise stretch behind := by
  intro ahead tail split some
  obtain ⟨first, tail, rfl⟩ := List.exists_cons_of_ne_nil some
  exact refused first _ (all first (split ▸ List.mem_append_right _ List.mem_cons_self))

/-- No hit starts in a stretch that goes on with characters in front of which none starts. -/
theorem refuses_of_next {passes : Char → Prop}
    (refused : ∀ c next rest, passes next → recognise (c :: next :: rest) = none)
    {stretch : Text} {next : Char} (all : ∀ c ∈ stretch, passes c) (last : passes next)
    (behind : Text) : Refuses recognise stretch (next :: behind) := by
  intro ahead tail split some
  obtain ⟨first, tail, rfl⟩ := List.exists_cons_of_ne_nil some
  cases tail with
  | nil => exact refused first next behind last
  | cons second tail =>
    have member : second ∈ stretch := split ▸ List.mem_append_right _ (by simp)
    exact refused first second _ (all second member)

/-- A stretch in which nothing is recognised is kept. -/
theorem rewrite_append_of_refuses {stretch behind : Text}
    (refuses : Refuses recognise stretch behind) :
    rewrite recognise render (stretch ++ behind) = stretch ++ rewrite recognise render behind := by
  induction stretch with
  | nil => rfl
  | cons c stretch ih =>
    rw [List.cons_append, rewrite_of_none refuses.head, ih refuses.tail, List.cons_append]

/-- A stretch in which nothing is recognised has no hits. -/
theorem hits_append_of_refuses {stretch behind : Text}
    (refuses : Refuses recognise stretch behind) :
    hits recognise (stretch ++ behind) = hits recognise behind := by
  induction stretch with
  | nil => rfl
  | cons c stretch ih => rw [List.cons_append, hits_of_none refuses.head, ih refuses.tail]

/-- The first hit is behind such a stretch. -/
theorem find?_append_of_refuses {stretch behind before rest : Text} {value : α}
    (refuses : Refuses recognise stretch behind)
    (found : find? recognise behind = some (before, value, rest)) :
    find? recognise (stretch ++ behind) = some (stretch ++ before, value, rest) := by
  induction stretch with
  | nil => exact found
  | cons c stretch ih =>
    rw [List.cons_append, find?, refuses.head, ih refuses.tail]
    rfl

/-- **Nothing is found** exactly if no hit starts anywhere. -/
theorem hits_eq_nil_iff {text : Text} : hits recognise text = [] ↔ Refuses recognise text [] := by
  constructor
  · intro none ahead tail split some
    induction text using scan_induction recognise generalizing ahead with
    | nil => exact absurd (List.append_eq_nil_iff.mp split.symm).2 some
    | plain c text refused ih =>
      rw [hits_of_none refused] at none
      cases ahead with
      | nil => rwa [List.append_nil, ← List.nil_append tail, ← split]
      | cons first ahead => exact ih none ahead (List.cons.inj split).2
    | hit text hit found ih =>
      rw [hits_of_some found] at none
      cases none
  · intro refuses
    rw [← List.append_nil text, hits_append_of_refuses refuses, hits_nil]

/-- Without hits a text is kept. -/
theorem rewrite_eq_self {text : Text} (none : hits recognise text = []) :
    rewrite recognise render text = text := by
  have kept : rewrite recognise render (text ++ []) = text ++ rewrite recognise render [] :=
    rewrite_append_of_refuses (hits_eq_nil_iff.mp none)
  rwa [rewrite_nil, List.append_nil] at kept

/-! ### Characters that no hit reaches -/

/-- No hit starts at a character, and what is found in front of it does not depend on it. -/
structure StopsAt (recognise : Recogniser α) (border : Char) : Prop where
  head : ∀ behind, recognise (border :: behind) = none
  refused : ∀ c text behind, recognise (c :: text) = none →
    recognise (c :: (text ++ border :: behind)) = none
  taken : ∀ (text : Text) (hit : Hit α text) (behind : Text), recognise text = some hit →
    ∃ longer, recognise (text ++ border :: behind) = some longer ∧ longer.value = hit.value ∧
      longer.rest = hit.rest ++ border :: behind

/-- **A text is scanned in pieces** between characters that no hit reaches. -/
theorem scan_append_cons {border : Char} (stops : StopsAt recognise border) (text behind : Text) :
    scan recognise (text ++ border :: behind) =
      scan recognise text ++ .plain border :: scan recognise behind := by
  induction text using scan_induction recognise with
  | nil => rw [List.nil_append, scan_of_none (stops.head behind), scan_nil, List.nil_append]
  | plain c text refused ih =>
    rw [List.cons_append, scan_of_none (stops.refused c text behind refused), ih,
      scan_of_none refused, List.cons_append]
  | hit text hit found ih =>
    obtain ⟨longer, found', value, rest⟩ := stops.taken text hit behind found
    rw [scan_of_some found', value, rest, ih, scan_of_some found, List.cons_append]

/-- It is rewritten in the same pieces. -/
theorem rewrite_append_cons {border : Char} (stops : StopsAt recognise border)
    (text behind : Text) :
    rewrite recognise render (text ++ border :: behind) =
      rewrite recognise render text ++ border :: rewrite recognise render behind := by
  rw [rewrite, scan_append_cons stops, List.flatMap_append]
  rfl

/-! ### Scans for a needle -/

/-- Reads one given text; an empty one is never read. -/
def literal (needle : Text) : Recogniser Unit := fun text =>
  match start : Text.after? needle text with
  | none => none
  | some rest =>
    if nonempty : needle = [] then none
    else some ⟨(), rest, Text.length_lt_of_after? nonempty start⟩

theorem literal_append {needle : Text} (nonempty : needle ≠ []) (rest : Text) :
    ∃ hit, literal needle (needle ++ rest) = some hit ∧ hit.rest = rest := by
  have start : Text.after? needle (needle ++ rest) = some rest := Text.after?_eq_some_iff.mpr rfl
  unfold literal
  split
  · next none => rw [start] at none; cases none
  · next other found =>
    rw [start] at found
    cases found
    rw [dif_neg nonempty]
    exact ⟨_, rfl, rfl⟩

theorem literal_eq_none {needle text : Text} (absent : ∀ rest, text ≠ needle ++ rest) :
    literal needle text = none := by
  unfold literal
  split
  · rfl
  · next rest found => exact absurd (Text.after?_eq_some_iff.mp found) (absent rest)

theorem ne_append_of_literal {needle text : Text} (nonempty : needle ≠ [])
    (refused : literal needle text = none) (rest : Text) : text ≠ needle ++ rest := by
  rintro rfl
  obtain ⟨hit, found, -⟩ := literal_append nonempty rest
  rw [refused] at found
  cases found

theorem eq_append_of_literal {needle text : Text} {hit : Hit Unit text}
    (found : literal needle text = some hit) : text = needle ++ hit.rest := by
  unfold literal at found
  split at found
  · cases found
  · next rest start =>
    split at found
    · cases found
    · cases found
      exact Text.after?_eq_some_iff.mp start

/-- No needle reaches a character that it does not hold. -/
theorem stopsAt_literal {needle : Text} {border : Char} (nonempty : needle ≠ [])
    (foreign : border ∉ needle) : (literal needle).StopsAt border where
  head behind := by
    refine literal_eq_none fun rest same => ?_
    obtain ⟨first, others, rfl⟩ := List.exists_cons_of_ne_nil nonempty
    exact foreign ((List.cons.inj same).1 ▸ List.mem_cons_self)
  refused c text behind refused := by
    have absent := ne_append_of_literal nonempty refused
    refine literal_eq_none fun rest same => ?_
    rw [← List.cons_append] at same
    rcases List.append_eq_append_iff.mp same with ⟨gap, needleEq, restEq⟩ | ⟨gap, textEq, -⟩
    · cases gap with
      | nil => exact absent [] (by rw [List.append_nil, needleEq, List.append_nil])
      | cons first gap =>
        refine foreign ?_
        rw [needleEq, (List.cons.inj restEq).1]
        exact List.mem_append_right _ List.mem_cons_self
    · exact absent gap textEq
  taken text hit behind found := by
    have split : text ++ border :: behind = needle ++ (hit.rest ++ border :: behind) := by
      rw [← List.append_assoc, ← eq_append_of_literal found]
    rw [split]
    obtain ⟨longer, found', rest⟩ := literal_append nonempty (hit.rest ++ border :: behind)
    exact ⟨longer, found', rfl, rest⟩

end Recogniser

namespace Text

/-- **Replacing a needle is a scan for it.** -/
theorem replaceAll_eq_rewrite {needle : Text} (nonempty : needle ≠ []) (replacement text : Text) :
    replaceAll needle replacement text =
      (Recogniser.literal needle).rewrite (fun _ => replacement) text := by
  induction text using Recogniser.scan_induction (Recogniser.literal needle) with
  | nil => rw [replaceAll, Recogniser.rewrite_nil]
  | plain c text refused ih =>
    have absent : after? needle (c :: text) = none := by
      rw [Option.eq_none_iff_forall_ne_some]
      exact fun rest start =>
        Recogniser.ne_append_of_literal nonempty refused rest (after?_eq_some_iff.mp start)
    rw [replaceAll, dif_neg nonempty, Recogniser.rewrite_of_none refused, ← ih]
    split
    · next rest start => rw [absent] at start; cases start
    · rfl
  | hit text hit found ih =>
    have start := after?_eq_some_iff.mpr (Recogniser.eq_append_of_literal found)
    cases text with
    | nil => exact absurd hit.shorter (Nat.not_lt_zero _)
    | cons c text =>
      rw [replaceAll, dif_neg nonempty, Recogniser.rewrite_of_some found, ← ih]
      split
      · next rest other =>
        rw [start] at other
        cases other
        rfl
      · next none => rw [start] at none; cases none

/-- A needle in front is replaced. -/
theorem replaceAll_needle_append {needle : Text} (nonempty : needle ≠ []) (replacement rest : Text) :
    replaceAll needle replacement (needle ++ rest) =
      replacement ++ replaceAll needle replacement rest := by
  obtain ⟨hit, taken, restEq⟩ := Recogniser.literal_append nonempty rest
  rw [replaceAll_eq_rewrite nonempty, replaceAll_eq_rewrite nonempty,
    Recogniser.rewrite_of_some taken, restEq]

theorem replaceAll_of_none {needle replacement text : Text} {c : Char} (nonempty : needle ≠ [])
    (refused : Recogniser.literal needle (c :: text) = none) :
    replaceAll needle replacement (c :: text) = c :: replaceAll needle replacement text := by
  rw [replaceAll_eq_rewrite nonempty, replaceAll_eq_rewrite nonempty,
    Recogniser.rewrite_of_none refused]

/-- A stretch without the needle is kept. -/
theorem replaceAll_append_of_refuses {needle replacement stretch behind : Text}
    (nonempty : needle ≠ []) (refuses : (Recogniser.literal needle).Refuses stretch behind) :
    replaceAll needle replacement (stretch ++ behind) =
      stretch ++ replaceAll needle replacement behind := by
  rw [replaceAll_eq_rewrite nonempty, replaceAll_eq_rewrite nonempty,
    Recogniser.rewrite_append_of_refuses refuses]

/-- **A needle is replaced in pieces** between characters that it does not hold. -/
theorem replaceAll_append_cons {needle : Text} {border : Char} (nonempty : needle ≠ [])
    (foreign : border ∉ needle) (replacement value behind : Text) :
    replaceAll needle replacement (value ++ border :: behind) =
      replaceAll needle replacement value ++ border :: replaceAll needle replacement behind := by
  simp only [replaceAll_eq_rewrite nonempty]
  exact Recogniser.rewrite_append_cons (Recogniser.stopsAt_literal nonempty foreign) value behind

/-- A text stays as it is if the needle does not occur in it. -/
theorem replaceAll_of_not_infix {needle replacement text : Text} (absent : ¬ needle <:+: text) :
    replaceAll needle replacement text = text := by
  have nonempty : needle ≠ [] := fun empty => absent (empty ▸ List.nil_infix)
  have refuses : (Recogniser.literal needle).Refuses text [] := by
    intro ahead tail split _
    refine Recogniser.literal_eq_none fun rest same => absent ⟨ahead, rest, ?_⟩
    rw [split, List.append_assoc, ← same, List.append_nil]
  have pieces : replaceAll needle replacement (text ++ []) =
      text ++ replaceAll needle replacement [] := replaceAll_append_of_refuses nonempty refuses
  rwa [List.append_nil, replaceAll, List.append_nil] at pieces

/-- A text that does not occur in another one is no part of it. -/
theorem not_infix_of_contains {text needle : Text} (absent : contains text needle = false) :
    ¬ needle <:+: text := by
  rintro ⟨before, after, rfl⟩
  induction before with
  | nil =>
    cases needle with
    | nil => cases after <;> simp [contains, cut?, after?] at absent
    | cons n needle =>
      have start : after? (n :: needle) (n :: needle ++ after) = some after :=
        after?_eq_some_iff.mpr rfl
      rw [List.cons_append] at start
      rw [contains, List.nil_append, List.cons_append, cut?, start] at absent
      cases absent
  | cons c before ih =>
    refine ih ?_
    rw [contains, List.cons_append, List.cons_append, cut?] at absent
    split at absent
    · cases absent
    · rwa [Option.isSome_map] at absent

/-! ### Cutting at a character -/

/-- What holds of the characters of a text one by one; for a given text it can be computed. -/
theorem forall_mem_of_all {holds : Char → Prop} [DecidablePred holds] {text : Text}
    (all : text.all (fun c => decide (holds c)) = true) : ∀ c ∈ text, holds c :=
  fun c member => of_decide_eq_true (List.all_eq_true.mp all c member)

/-- The first place of a character settles how a text is cut there. -/
theorem append_cons_inj {separator : Char} {left left' right right' : Text}
    (free : separator ∉ left) (free' : separator ∉ left')
    (same : left ++ separator :: right = left' ++ separator :: right') :
    left = left' ∧ right = right' := by
  rcases List.append_eq_append_iff.mp same with ⟨gap, leftEq, rightEq⟩ | ⟨gap, leftEq, rightEq⟩
  · cases gap with
    | nil => simp_all
    | cons c gap =>
      have := (List.cons.inj rightEq).1
      exact absurd (by simp [leftEq, this]) free'
  · cases gap with
    | nil => simp_all
    | cons c gap =>
      have := (List.cons.inj rightEq).1
      exact absurd (by simp [leftEq, this]) free

/-- **A name with `=` behind it stands in front of a border** that neither the name nor `=` holds. -/
theorem name_before_border {name text behind rest : Text} {border : Char} (foreign : border ∉ name)
    (notEquals : border ≠ '=') (same : text ++ border :: behind = name ++ '=' :: rest) :
    ∃ gap, text = name ++ '=' :: gap ∧ rest = gap ++ border :: behind := by
  rcases List.append_eq_append_iff.mp same with ⟨gap, nameEq, restEq⟩ | ⟨gap, textEq, restEq⟩
  · cases gap with
    | nil => exact absurd (List.cons.inj restEq).1 notEquals
    | cons c gap =>
      rw [← (List.cons.inj restEq).1] at nameEq
      exact absurd (nameEq ▸ List.mem_append_right _ List.mem_cons_self) foreign
  · cases gap with
    | nil => exact absurd (List.cons.inj restEq).1.symm notEquals
    | cons c gap =>
      obtain ⟨rfl, rest⟩ := List.cons.inj restEq
      exact ⟨gap, textEq, rest⟩

/-- **A name with `=` behind it does not start in a stretch without `=`** if the stretch ends at a
character that neither the name nor `=` holds. -/
theorem name_not_start {name stretch behind rest : Text} {border : Char} (free : '=' ∉ stretch)
    (foreign : border ∉ name) (notEquals : border ≠ '=') :
    stretch ++ border :: behind ≠ name ++ '=' :: rest := by
  intro same
  obtain ⟨gap, rfl, -⟩ := name_before_border foreign notEquals same
  exact free (List.mem_append_right _ List.mem_cons_self)

/-- A non-empty end of a text ends in the text's last character. -/
theorem concat_of_append_eq {body ahead tail : Text} {last : Char} (nonempty : tail ≠ [])
    (split : body ++ [last] = ahead ++ tail) :
    ∃ inner, body = ahead ++ inner ∧ tail = inner ++ [last] := by
  obtain ⟨inner, other, rfl⟩ := (List.eq_nil_or_concat' tail).resolve_left nonempty
  rw [← List.append_assoc] at split
  obtain ⟨bodyEq, lastEq⟩ := List.append_inj' split rfl
  exact ⟨inner, bodyEq, by rw [lastEq]⟩

/-- A quote behind a text that holds none is found. -/
theorem quotedEnd?_append {value : Text} (plain : '"' ∉ value) (rest : Text) :
    quotedEnd? (value ++ '"' :: rest) = some (value, rest) := by
  have passes : ∀ c ∈ value, (c != '"') = true := fun c member => by
    rw [bne_iff_ne]
    exact fun same => plain (same ▸ member)
  rw [quotedEnd?, List.dropWhile_append_of_pos passes, List.takeWhile_append_of_pos passes,
    List.dropWhile_cons_of_neg (by decide), List.takeWhile_cons_of_neg (by decide),
    List.append_nil]

/-- What is read up to a quote holds none. -/
theorem plain_of_quotedEnd? {text value rest : Text}
    (found : quotedEnd? text = some (value, rest)) : '"' ∉ value := by
  unfold quotedEnd? at found
  split at found
  · cases found
  · cases found
    intro member
    exact absurd (List.mem_takeWhile_imp member) (by decide)

/-! ### Letters and digits -/

theorem codes_of_isAlphanum {c : Char} (solid : c.isAlphanum = true) :
    ((65 ≤ c.toNat ∧ c.toNat ≤ 90) ∨ 97 ≤ c.toNat ∧ c.toNat ≤ 122) ∨
      48 ≤ c.toNat ∧ c.toNat ≤ 57 := by
  change ((decide (65 ≤ c.val ∧ c.val ≤ 90) ||
    (decide (97 ≤ c.val) && decide (c.val ≤ 122))) ||
    (decide (48 ≤ c.val) && decide (c.val ≤ 57))) = true at solid
  simp only [Bool.or_eq_true, Bool.and_eq_true, decide_eq_true_eq, UInt32.le_iff_toNat_le] at solid
  exact solid

/-- What holds of all ASCII letters and digits, one by one, holds of every letter or digit. -/
theorem of_isAlphanum {P : Char → Prop} {c : Char}
    (table : ∀ code < 128, (Char.ofNat code).isAlphanum = true → P (Char.ofNat code))
    (solid : c.isAlphanum = true) : P c := by
  have ascii : c.toNat < 128 := by
    have codes := codes_of_isAlphanum solid
    omega
  have entry := table c.toNat ascii
  rw [Char.ofNat_toNat] at entry
  exact entry solid

/-- Digits of base sixteen are digits or letters. -/
theorem isAlphanum_of_isHexDigit {c : Char} (hex : Char.isHexDigit c = true) : c.isAlphanum = true := by
  have ofLetter (letter : c.isAlpha = true) : c.isAlphanum = true :=
    Bool.or_eq_true_iff.mpr (.inl letter)
  cases upper : c.isUpper with
  | true => exact ofLetter (Bool.or_eq_true_iff.mpr (.inl upper))
  | false =>
    have same : c.toLower = c :=
      dif_neg fun capital => Bool.eq_false_iff.mp upper (decide_eq_true capital)
    rw [Char.isHexDigit, same, Bool.or_eq_true, Bool.and_eq_true, decide_eq_true_eq,
      decide_eq_true_eq] at hex
    rcases hex with digit | ⟨low, high⟩
    · exact Bool.or_eq_true_iff.mpr (.inr digit)
    · have lower : c.isLower = true := Bool.and_eq_true_iff.mpr
        ⟨decide_eq_true low, decide_eq_true (Char.le_trans high (by decide : 'f' ≤ 'z'))⟩
      exact ofLetter (Bool.or_eq_true_iff.mpr (.inr lower))

/-- Only small letters have another capital. -/
theorem toUpper_eq_self {c : Char} (capital : c.isLower = false) : c.toUpper = c := by
  refine dif_neg fun ⟨first, last⟩ => ?_
  have small : c.isLower = true :=
    Bool.and_eq_true_iff.mpr ⟨decide_eq_true first, decide_eq_true last⟩
  exact Bool.eq_false_iff.mp capital small

/-- A capital has the same small letter. -/
theorem toLower_toUpper (c : Char) : c.toUpper.toLower = c.toLower := by
  cases small : c.isLower with
  | false => rw [toUpper_eq_self small]
  | true =>
    have letter : c.isAlpha = true := Bool.or_eq_true_iff.mpr (.inr small)
    have solid : c.isAlphanum = true := Bool.or_eq_true_iff.mpr (.inl letter)
    exact of_isAlphanum (P := fun c => c.toUpper.toLower = c.toLower) (by decide +kernel) solid

theorem isDigit_ofNat {index : Nat} {c : Char} (member : c ∈ ofNat index) : c.isDigit = true :=
  Nat.isDigit_of_mem_toDigits (by decide) (by decide) member

end Text

end IconComponents
