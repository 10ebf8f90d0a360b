/-
**The colours of a masked text.**

A text that is not the word is the same colour when it is masked, or none in both cases: its numbers
are the same, and a name that is cut off by the word is no name of a colour.

* `Color.parts?_alongside`, `Color.hue?_alongside` — the parts of a colour in brackets;
* `Color.read?_alongside` — a colour at the front of a text;
* `Color.parse?_masked` — the colour that a text is.
-/

import IconComponents.Proofs.Svg.MaskedNumber
import IconComponents.Svg.Color

namespace IconComponents.Svg

variable {mask text masked rest rest' : Text} {c : Char}

/-! ### Parts -/

namespace Color

section

variable (isMask : IsMask mask)

include isMask

/-- Shares of colours are read alike. -/
theorem share?_alongside (alongside : Alongside mask text masked) :
    SameReading mask (share? text) (share? masked) := by
  have both := number?_alongside isMask alongside
  unfold share?
  generalize number? text = one at both
  generalize number? masked = other at both
  cases both with
  | none => exact .none
  | some value left =>
    rw [Option.map_some, Option.map_some]
    rcases left.split isMask (c := '%') (by decide) (by decide) with
      ⟨rest, rest', rfl, rfl, behind⟩ | ⟨number, number'⟩
    · exact .some _ (skipComma_alongside isMask behind)
    · simp only
      exact .some _ (skipComma_alongside isMask left)

theorem alpha?_alongside (alongside : Alongside mask text masked) :
    SameReading mask (alpha? text) (alpha? masked) := by
  have closing {alpha : Nat} {rest rest' : Text} (left : Alongside mask rest rest') :
      SameReading mask
        ((Text.after? [')'] (Text.skipSpace rest)).bind fun rest => some (alpha, rest))
        ((Text.after? [')'] (Text.skipSpace rest')).bind fun rest => some (alpha, rest)) := by
    have kept : isKept false [')'] = true := by decide
    have behind := (left.skipSpace isMask).after? isMask kept nofun
    generalize Text.after? [')'] (Text.skipSpace rest) = one at behind ⊢
    generalize Text.after? [')'] (Text.skipSpace rest') = other at behind ⊢
    cases behind with
    | none => exact .none
    | some behind => exact .some _ behind
  have left := alongside.skipSpace isMask
  unfold alpha?
  rcases left.split isMask (c := ')') (by decide) (by decide) with
    ⟨rest, rest', same, same', -⟩ | ⟨number, number'⟩
  · rw [same, same']
    exact closing alongside
  · simp only
    refine SameReading.bind ?_ fun left => closing left
    exact (share?_alongside isMask left).map (fun _ => rfl) fun left => left

/-- **The parts of a colour** in brackets. -/
theorem parts?_alongside (alongside : Alongside mask text masked) :
    SameReading mask (parts? text) (parts? masked) := by
  refine (number?_alongside isMask alongside).bind fun left => ?_
  rcases left.split isMask (c := '%') (by decide) (by decide) with
    ⟨rest, rest', rfl, rfl, behind⟩ | ⟨number, number'⟩
  · refine (share?_alongside isMask (skipComma_alongside isMask behind)).bind fun left => ?_
    refine (share?_alongside isMask left).bind fun left => ?_
    refine (alpha?_alongside isMask left).bind fun left => ?_
    exact .some _ left
  · simp only
    refine (listNumber?_alongside isMask (skipComma_alongside isMask left)).bind fun left => ?_
    refine (listNumber?_alongside isMask left).bind fun left => ?_
    refine (alpha?_alongside isMask left).bind fun left => ?_
    exact .some _ left

/-- **A hue** with its saturation and lightness. -/
theorem hue?_alongside (alongside : Alongside mask text masked) :
    SameReading mask (hue? text) (hue? masked) := by
  refine (listNumber?_alongside isMask alongside).bind fun left => ?_
  refine (share?_alongside isMask left).bind fun left => ?_
  refine (share?_alongside isMask left).bind fun left => ?_
  refine (alpha?_alongside isMask left).bind fun left => ?_
  exact .some _ left

end

/-! ### Hexadecimal colours -/

/-- A colour behind a mark: no digit of it is of the word. -/
theorem read?_mark (isMask : IsMask mask) (aligned : Aligned mask text masked) :
    SameReading mask (read? ('#' :: text)) (read? ('#' :: masked)) := by
  have digits (text : Text) : read? ('#' :: text) =
      (ofDigits? ((text.takeWhile Char.isHexDigit).map Char.digitValue)).map
        (·, text.dropWhile Char.isHexDigit) := rfl
  have same (run : text.takeWhile Char.isHexDigit = masked.takeWhile Char.isHexDigit)
      (left : Alongside mask (text.dropWhile Char.isHexDigit)
        (masked.dropWhile Char.isHexDigit)) :
      SameReading mask (read? ('#' :: text)) (read? ('#' :: masked)) := by
    rw [digits, digits, run]
    cases ofDigits? _ with
    | none => exact .none
    | some color => exact .some color left
  have alongside := aligned.alongside
  cases alongside.next isMask with
  | ended => exact same rfl alongside
  | same c behind =>
    cases hex : Char.isHexDigit c with
    | false =>
      refine same ?_ ?_
      · rw [List.takeWhile_cons_of_neg (by simp [hex]), List.takeWhile_cons_of_neg (by simp [hex])]
      · rwa [List.dropWhile_cons_of_neg (by simp [hex]), List.dropWhile_cons_of_neg (by simp [hex])]
    | true =>
      obtain ⟨run, left⟩ := (behind.within (isWord_of_isHexDigit hex)).run isMask
        fun _ => isWord_of_isHexDigit
      refine same ?_ ?_
      · rw [List.takeWhile_cons_of_pos hex, List.takeWhile_cons_of_pos hex, run]
      · rwa [List.dropWhile_cons_of_pos hex, List.dropWhile_cons_of_pos hex]
  | swapped isLetter swapped =>
    obtain ⟨second, others, rfl, isSecond⟩ := exists_second_of_swapped swapped
    have other : Char.isHexDigit second = false := by
      rcases isSecond with rfl | rfl <;> decide
    rw [digits, digits]
    rcases isLetter with rfl | rfl
    · rw [List.takeWhile_cons_of_pos (by decide), List.takeWhile_cons_of_neg (by simp [other])]
      exact .none
    · rw [List.takeWhile_cons_of_pos (by decide), List.takeWhile_cons_of_neg (by simp [other])]
      exact .none

/-! ### Named colours -/

/-- Whether a character can stand in the name of a colour. -/
def isNamePart (c : Char) : Bool := c.isAlphanum || c = '-' || c = '_'

/-- The colour of a name, in small letters, with what is behind it. -/
def ofName? (name rest : Text) : Option (Color × Text) :=
  if name = "rgb".toList || name = "rgba".toList then (Text.after? ['('] rest).bind parts?
  else if name = "hsl".toList || name = "hsla".toList then (Text.after? ['('] rest).bind hue?
  else if name = "transparent".toList then some (⟨0, 0, 0, 0⟩, rest)
  else
    (colorNames.find? fun (other, _) => other.toList == name).map fun (_, number) =>
      (ofNumber number, rest)

theorem read?_of_name (other : c ≠ '#') (text : Text) : read? (c :: text) =
    ofName? (Text.lower ((c :: text).takeWhile isNamePart)) ((c :: text).dropWhile isNamePart) := by
  unfold read?
  split
  · next same => exact absurd (List.cons.inj same).1 other
  · rfl

/-- The names of lists of parts, and of no colour. -/
def otherNames : List Text :=
  ["rgb".toList, "rgba".toList, "hsl".toList, "hsla".toList, "transparent".toList]

/-- A name that is none of a colour is no colour. -/
theorem ofName?_of_unknown {name : Text} (other : name ∉ otherNames)
    (unnamed : ∀ entry ∈ colorNames, entry.1.toList ≠ name) (rest : Text) :
    ofName? name rest = none := by
  simp only [otherNames, List.mem_cons, List.not_mem_nil, or_false, not_or] at other
  obtain ⟨rgb, rgba, hsl, hsla, transparent⟩ := other
  have absent : colorNames.find? (fun (other, _) => other.toList == name) = none :=
    List.find?_eq_none.mpr fun entry member same => unnamed entry member (beq_iff_eq.mp same)
  unfold ofName?
  simp only [rgb, rgba, hsl, hsla, transparent, absent, decide_false, Bool.or_self,
    Bool.false_eq_true, if_false, Option.map_none]

/-- No such name has a hyphen in it, or starts with the word. -/
def isPlainName (name : Text) : Bool :=
  name.all (· != '-') && !(Text.lower currentColor).isPrefixOf name

/-- Entries with plain names only. -/
def ArePlain (entries : List (String × Nat)) : Prop :=
  ∀ entry ∈ entries, isPlainName entry.1.toList = true

theorem arePlain_cons {letters : Text} {color : Nat} {entries : List (String × Nat)}
    (plain : isPlainName letters = true) (others : ArePlain entries) :
    ArePlain ((String.ofList letters, color) :: entries) := by
  intro entry member
  rcases List.mem_cons.mp member with rfl | member
  · rwa [String.toList_ofList]
  · exact others entry member

theorem arePlain_colorNames : ArePlain colorNames := by
  unfold colorNames
  repeat refine arePlain_cons (by decide) ?_
  exact fun _ member => (List.not_mem_nil member).elim

/-- A name with a hyphen in it, or that starts with the word, is no colour. -/
theorem ofName?_of_isPlainName {name : Text} (other : isPlainName name = false) (rest : Text) :
    ofName? name rest = none := by
  have names : otherNames.all isPlainName := by
    unfold otherNames
    decide +kernel
  refine ofName?_of_unknown (fun member => ?_) (fun entry member same => ?_) rest
  · rw [List.all_eq_true.mp names name member] at other
    cases other
  · rw [← same, arePlain_colorNames entry member] at other
    cases other

theorem ofName?_of_hyphen {run : Text} (hyphen : '-' ∈ run) (rest : Text) :
    ofName? (Text.lower run) rest = none := by
  refine ofName?_of_isPlainName (Bool.and_eq_false_iff.mpr (.inl ?_)) rest
  have member : '-' ∈ Text.lower run := List.mem_map.mpr ⟨'-', hyphen, rfl⟩
  exact List.all_eq_false.mpr ⟨'-', member, by decide⟩

/-- Names of colours are read alike. -/
theorem ofName?_alongside (isMask : IsMask mask) (name : Text)
    (left : Alongside mask rest rest') :
    SameReading mask (ofName? name rest) (ofName? name rest') := by
  have kept : isKept false ['('] = true := by decide
  have bracket := left.after? isMask kept nofun
  unfold ofName?
  split
  · generalize Text.after? ['('] rest = one at bracket
    generalize Text.after? ['('] rest' = other at bracket
    cases bracket with
    | none => exact .none
    | some inner => exact parts?_alongside isMask inner
  split
  · generalize Text.after? ['('] rest = one at bracket
    generalize Text.after? ['('] rest' = other at bracket
    cases bracket with
    | none => exact .none
    | some inner => exact hue?_alongside isMask inner
  split
  · exact .some _ left
  · cases colorNames.find? _ with
    | none => exact .none
    | some entry => exact .some _ left

/-- A name is the same in both texts, unless it has a hyphen in it. -/
theorem name_alongside (isMask : IsMask mask) (part : isNamePart c = true)
    (behind : Behind mask c text masked) :
    (text.takeWhile isNamePart = masked.takeWhile isNamePart ∧
        Alongside mask (text.dropWhile isNamePart) (masked.dropWhile isNamePart)) ∨
      '-' ∈ c :: text.takeWhile isNamePart ∧ '-' ∈ c :: masked.takeWhile isNamePart := by
  induction masked generalizing c text with
  | nil =>
    obtain rfl := behind.alongside.nil isMask
    exact Or.inl ⟨rfl, behind.alongside⟩
  | cons d masked ih =>
    cases kind : Char.isWord c with
    | false =>
      have hyphen : c = '-' := by
        simp only [isNamePart, Bool.or_eq_true, decide_eq_true_eq, or_assoc] at part
        rcases part with solid | rfl | rfl
        · rw [isWord_of_isAlphanum solid] at kind
          cases kind
        · rfl
        · cases kind
      exact Or.inr ⟨hyphen ▸ List.mem_cons_self, hyphen ▸ List.mem_cons_self⟩
    | true =>
      obtain ⟨text', rfl, behind'⟩ := (behind.within kind).cons
      cases kept : isNamePart d with
      | true =>
        simp only [List.takeWhile_cons, List.dropWhile_cons, kept, if_true]
        rcases ih kept behind' with ⟨taken, left⟩ | ⟨hyphen, hyphen'⟩
        · exact Or.inl ⟨by rw [taken], left⟩
        · exact Or.inr ⟨List.mem_cons_of_mem _ hyphen, List.mem_cons_of_mem _ hyphen'⟩
      | false =>
        simp only [List.takeWhile_cons, List.dropWhile_cons, kept, Bool.false_eq_true, if_false]
        exact Or.inl ⟨trivial, behind.alongside⟩

/-! ### Colours -/

/-- The word is no name of a colour. -/
theorem read?_word {word : Text} (named : isCurrentColor word = true) (rest : Text) :
    read? (word ++ rest) = none := by
  have parts : ∀ c ∈ word, isNamePart c = true := fun c member => by
    simp [isNamePart, Char.isAlphanum, isAlpha_of_isCurrentColor named c member]
  have run : (word ++ rest).takeWhile isNamePart = word ++ rest.takeWhile isNamePart :=
    List.takeWhile_append_of_pos parts
  have lower := lower_of_isCurrentColor named
  obtain ⟨letter, others, rfl, isLetter⟩ := exists_letter_of_isCurrentColor named
  have other : letter ≠ '#' := by
    rcases isLetter with rfl | rfl <;> decide
  have start : (Text.lower currentColor).isPrefixOf
      (Text.lower (letter :: others ++ rest.takeWhile isNamePart)) = true := by
    rw [List.isPrefixOf_iff_prefix, ← lower, Text.lower, Text.lower, List.map_append]
    exact List.prefix_append _ _
  rw [List.cons_append, read?_of_name other, ← List.cons_append, run]
  exact ofName?_of_isPlainName (Bool.and_eq_false_iff.mpr (.inr (by rw [start]; rfl))) _

/-- The digits of a masking colour make it. -/
theorem ofDigits?_maskColor {green : Nat} (byte : green < 256) :
    ofDigits? ((maskColor green).tail.map Char.digitValue) = some ⟨254, green, 254, 255⟩ := by
  have value : ∀ n < 16, Char.digitValue (Nat.digitChar n) = n := by decide
  have digits : (maskColor green).tail.map Char.digitValue =
      [15, 14, Char.digitValue (Nat.digitChar (green / 16)),
        Char.digitValue (Nat.digitChar (green % 16)), 15, 14] := rfl
  rw [digits, value _ (by omega), value _ (by omega), ofDigits?, Nat.div_add_mod]

/-- The masking colour is read up to its end. -/
theorem read?_maskColor {green : Nat} (byte : green < 256) (ends : Text.wordEnds rest = true) :
    read? (maskColor green ++ rest) = some (⟨254, green, 254, 255⟩, rest) := by
  have digits := forall_mem_maskColor (p := Char.isHexDigit) (by decide) byte
  have last : rest.takeWhile Char.isHexDigit = [] ∧ rest.dropWhile Char.isHexDigit = rest := by
    cases rest with
    | nil => exact ⟨rfl, rfl⟩
    | cons c rest =>
      have other : Char.isHexDigit c = false := by
        rw [← Bool.not_eq_true]
        intro digit
        rw [Text.wordEnds, isWord_of_isHexDigit digit] at ends
        cases ends
      rw [List.takeWhile_cons_of_neg (by simp [other]), List.dropWhile_cons_of_neg (by simp [other])]
      exact ⟨rfl, rfl⟩
  have split : maskColor green = '#' :: (maskColor green).tail := rfl
  rw [split, List.cons_append, read?, List.takeWhile_append_of_pos digits,
    List.dropWhile_append_of_pos digits, last.1, last.2, List.append_nil,
    ofDigits?_maskColor byte]
  rfl

theorem parse?_maskColor {green : Nat} (byte : green < 256) :
    parse? (maskColor green) = some ⟨254, green, 254, 255⟩ := by
  have read : read? (maskColor green ++ []) = some (⟨254, green, 254, 255⟩, []) :=
    read?_maskColor byte rfl
  have start : Text.skipSpace (maskColor green) = maskColor green := rfl
  rw [List.append_nil] at read
  rw [parse?, start, read]
  rfl

/-- A colour at the front of both texts, where they start with the same character. -/
theorem read?_same (isMask : IsMask mask) (alongside : Alongside mask (c :: text) (c :: masked))
    (behind : Behind mask c text masked) :
    SameReading mask (read? (c :: text)) (read? (c :: masked)) := by
  by_cases mark : c = '#'
  · subst mark
    exact read?_mark isMask (behind.aligned (by decide))
  · rw [read?_of_name mark, read?_of_name mark]
    cases part : isNamePart c with
    | false =>
      rw [List.takeWhile_cons_of_neg (by simp [part]), List.takeWhile_cons_of_neg (by simp [part]),
        List.dropWhile_cons_of_neg (by simp [part]), List.dropWhile_cons_of_neg (by simp [part])]
      exact ofName?_alongside isMask _ alongside
    | true =>
      rw [List.takeWhile_cons_of_pos part, List.takeWhile_cons_of_pos part,
        List.dropWhile_cons_of_pos part, List.dropWhile_cons_of_pos part]
      rcases name_alongside isMask part behind with ⟨taken, left⟩ | ⟨hyphen, hyphen'⟩
      · rw [taken]
        exact ofName?_alongside isMask _ left
      · rw [ofName?_of_hyphen hyphen, ofName?_of_hyphen hyphen']
        exact .none

/-- A colour that is read, if nothing but white space is left behind it. -/
def whole? (reading : Option (Color × Text)) : Option Color :=
  reading.bind fun (color, rest) => if (Text.skipSpace rest).isEmpty then some color else none

theorem parse?_eq (text : Text) : parse? text = whole? (read? (Text.skipSpace text)) := by
  unfold parse?
  cases read? (Text.skipSpace text) <;> rfl

/-- The same is left behind colours that are read alike. -/
theorem same_whole? (isMask : IsMask mask) {reading reading' : Option (Color × Text)}
    (both : SameReading mask reading reading') : whole? reading' = whole? reading := by
  cases both with
  | none => rfl
  | some color left =>
    rw [whole?, whole?, Option.bind_some, Option.bind_some]
    simp only [(left.skipSpace isMask).isEmpty_eq isMask]

/-- **A text that is not the word**, apart from white space, is the same colour when it is masked,
or none in both cases. -/
theorem parse?_masked {green : Nat} (byte : green < 256)
    (aligned : Aligned (maskColor green) text masked)
    (other : ∀ word blanks, Text.skipSpace text = word ++ blanks →
      (∀ c ∈ blanks, Char.isSpace c = true) → isCurrentColor word = false) :
    parse? masked = parse? text := by
  have isMask := isMask_maskColor byte
  have left := aligned.alongside.skipSpace isMask
  rw [parse?_eq, parse?_eq]
  generalize Text.skipSpace text = start at left other
  generalize Text.skipSpace masked = start' at left
  cases left.next isMask with
  | ended => rfl
  | same c behind => exact same_whole? isMask (read?_same isMask left behind)
  | swapped isLetter swapped =>
    obtain ⟨word, rest, named, ends, split, split'⟩ := swapped
    rw [split, split', read?_word named, read?_maskColor byte (wordEnds_maskWith ends)]
    refine if_neg ?_
    intro blank
    rw [skipSpace_maskWith isMask, List.isEmpty_iff, maskWith_eq_nil_iff isMask, Text.skipSpace,
      List.dropWhile_eq_nil_iff] at blank
    rw [other word rest split blank] at named
    cases named

end Color

end IconComponents.Svg
