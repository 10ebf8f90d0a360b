/-
**The numbers of a masked text.**

No number goes on where a word is masked, neither with the word nor with the masking colour. So the
numbers that are read from a masked text are those of the text, and so are lengths, lists of points
and the commands of a path.

* `number?_alongside` — a number at the front of a text;
* `Length.parse?_masked`, `View.parse?_masked` — lengths and views;
* `Outline.ofPath?_masked`, `Outline.ofPoints?_masked` — outlines.
-/

import IconComponents.Proofs.Markup.Reading
import IconComponents.Svg.Length
import IconComponents.Svg.Picture

namespace IconComponents.Svg

variable {mask text masked rest rest' : Text} {c : Char} {p : Char → Bool}

/-! ### Numbers -/

theorem sign_cons (c : Char) (text : Text) : sign (c :: text) =
    if c = '-' then (true, text) else if c = '+' then (false, text) else (false, c :: text) := by
  unfold sign
  split <;> simp_all

/-- Signs are read alike. -/
theorem sign_alongside (isMask : IsMask mask) (alongside : Alongside mask text masked) :
    ∃ negative rest rest', sign text = (negative, rest) ∧ sign masked = (negative, rest') ∧
      Alongside mask rest rest' := by
  cases alongside.next isMask with
  | ended => exact ⟨false, [], [], rfl, rfl, alongside⟩
  | @same text masked c behind =>
    rw [sign_cons, sign_cons]
    split
    · exact ⟨true, _, _, rfl, rfl, behind.alongside⟩
    split
    · exact ⟨false, _, _, rfl, rfl, behind.alongside⟩
    · exact ⟨false, _, _, rfl, rfl, alongside⟩
  | swapped isLetter => rcases isLetter with rfl | rfl <;> exact ⟨false, _, _, rfl, rfl, alongside⟩

/-- Powers of ten are read alike. -/
theorem power?_alongside (isMask : IsMask mask) (alongside : Alongside mask text masked) :
    SameReading mask (power? text) (power? masked) := by
  obtain ⟨negative, rest, rest', signed, signed', left⟩ := sign_alongside isMask alongside
  obtain ⟨digits, behind⟩ := left.run isMask stopsAtWords_isDigit
  unfold power?
  rw [signed, signed']
  simp only [digits]
  split
  · exact .none
  · exact .some _ behind

/-- An exponent does not start where a word is masked. -/
theorem exponent?_alongside (isMask : IsMask mask) (alongside : Alongside mask text masked) :
    SameReading mask (exponent? text) (exponent? masked) := by
  cases alongside.next isMask with
  | ended => exact .some _ alongside
  | @same text masked c behind =>
    have head (letter : Char) (stops : StopsAtWords (· == letter)) :
        (text.head? == some letter) = (masked.head? == some letter) := by
      have same := behind.alongside.head?_eq isMask stops
      cases text <;> cases masked <;> simp_all
    unfold exponent?
    simp only [head 'm' ⟨rfl, rfl, rfl⟩, head 'x' ⟨rfl, rfl, rfl⟩]
    split
    · exact .some _ alongside
    · exact power?_alongside isMask behind.alongside
  | swapped isLetter => rcases isLetter with rfl | rfl <;> exact .some _ alongside

theorem mantissa?_of_point (point : text.dropWhile Char.isDigit = '.' :: rest) :
    mantissa? text =
      if (text.takeWhile Char.isDigit).isEmpty && (rest.takeWhile Char.isDigit).isEmpty then none
      else some (text.takeWhile Char.isDigit ++ rest.takeWhile Char.isDigit,
        (rest.takeWhile Char.isDigit).length, rest.dropWhile Char.isDigit) := by
  rw [mantissa?, point]
  rfl

theorem mantissa?_of_not_point (whole : ∀ rest, text.dropWhile Char.isDigit ≠ '.' :: rest) :
    mantissa? text = if (text.takeWhile Char.isDigit).isEmpty then none
      else some (text.takeWhile Char.isDigit, 0, text.dropWhile Char.isDigit) := by
  unfold mantissa?
  split
  · next rest point => exact absurd point (whole rest)
  · rfl

/-- The digits of a number. -/
theorem mantissa?_alongside (isMask : IsMask mask) (alongside : Alongside mask text masked) :
    (mantissa? text = none ∧ mantissa? masked = none) ∨
      ∃ digits places rest rest', mantissa? text = some (digits, places, rest) ∧
        mantissa? masked = some (digits, places, rest') ∧ Alongside mask rest rest' := by
  obtain ⟨digits, behind⟩ := alongside.run isMask stopsAtWords_isDigit
  have next := behind.next isMask
  by_cases point : ∃ rest, text.dropWhile Char.isDigit = '.' :: rest
  · obtain ⟨rest, point⟩ := point
    obtain ⟨rest', point', left⟩ : ∃ rest', masked.dropWhile Char.isDigit = '.' :: rest' ∧
        Alongside mask rest rest' := by
      rw [point] at next
      generalize masked.dropWhile Char.isDigit = behind' at next
      cases next with
      | same _ behind => exact ⟨_, rfl, behind.alongside⟩
      | swapped isLetter => rcases isLetter with isLetter | isLetter <;> cases isLetter
    obtain ⟨fraction, last⟩ := left.run isMask stopsAtWords_isDigit
    rw [mantissa?_of_point point, mantissa?_of_point point', digits, fraction]
    split
    · exact Or.inl ⟨rfl, rfl⟩
    · exact Or.inr ⟨_, _, _, _, rfl, rfl, last⟩
  · rw [not_exists] at point
    have point' : ∀ rest, masked.dropWhile Char.isDigit ≠ '.' :: rest := by
      intro rest' same
      rw [same] at next
      generalize text.dropWhile Char.isDigit = front at next point
      cases next with
      | same _ behind => exact point _ rfl
    rw [mantissa?_of_not_point point, mantissa?_of_not_point point', digits]
    split
    · exact Or.inl ⟨rfl, rfl⟩
    · exact Or.inr ⟨_, _, _, _, rfl, rfl, behind⟩

/-- **A number** at the front of a masked text is the one at the front of the text. -/
theorem number?_alongside (isMask : IsMask mask) (alongside : Alongside mask text masked) :
    SameReading mask (number? text) (number? masked) := by
  obtain ⟨negative, rest, rest', signed, signed', left⟩ :=
    sign_alongside isMask (alongside.skipSpace isMask)
  unfold number?
  rw [signed, signed']
  simp only
  rcases mantissa?_alongside isMask left with
    ⟨none, none'⟩ | ⟨digits, places, behind, behind', read, read', left⟩
  · rw [none, none']
    exact .none
  · rw [read, read']
    simp only
    have power := exponent?_alongside isMask left
    generalize exponent? behind = one at power
    generalize exponent? behind' = other at power
    cases power with
    | none => exact .none
    | some power last =>
      simp only
      split
      · exact .some _ last
      · exact .none

theorem skipComma_eq (text : Text) : skipComma text =
    if (Text.skipSpace text).head? = some ',' then (Text.skipSpace text).tail
    else Text.skipSpace text := by
  unfold skipComma
  split
  · next rest comma => rw [comma, List.head?_cons, if_pos rfl, List.tail_cons]
  · next other =>
    rw [if_neg]
    intro head
    obtain ⟨rest, comma⟩ := List.head?_eq_some_iff.mp head
    exact other rest comma

theorem skipComma_alongside (isMask : IsMask mask) (alongside : Alongside mask text masked) :
    Alongside mask (skipComma text) (skipComma masked) := by
  have left := alongside.skipSpace isMask
  rw [skipComma_eq, skipComma_eq]
  generalize Text.skipSpace text = rest at left
  generalize Text.skipSpace masked = rest' at left
  cases left.next isMask with
  | ended => exact left
  | same c behind =>
    rw [List.head?_cons, List.head?_cons]
    split
    · exact behind.alongside
    · exact left
  | swapped isLetter => rcases isLetter with rfl | rfl <;> exact left

theorem listNumber?_alongside (isMask : IsMask mask) (alongside : Alongside mask text masked) :
    SameReading mask (listNumber? text) (listNumber? masked) :=
  (number?_alongside isMask alongside).map (fun _ => rfl) fun left => skipComma_alongside isMask left

/-- Lists of numbers are read alike. -/
theorem numbers?_alongside (isMask : IsMask mask) (count : Nat)
    (alongside : Alongside mask text masked) :
    SameReading mask (numbers? count text) (numbers? count masked) := by
  induction count generalizing text masked with
  | zero => exact .some _ alongside
  | succ count ih =>
    exact (listNumber?_alongside isMask alongside).bind fun left =>
      (ih left).map (fun _ => rfl) fun left => left

/-! ### Lengths -/

/-- No unit is cut off by the word. -/
theorem Unit.read_alongside (isMask : IsMask mask) (alongside : Alongside mask text masked) :
    (Unit.read text).1 = (Unit.read masked).1 ∧
      Alongside mask (Unit.read text).2 (Unit.read masked).2 := by
  have kept : units.all fun entry => isKept false entry.1 := by decide
  unfold Unit.read
  simp only
  generalize units = entries at kept
  induction entries with
  | nil => exact ⟨rfl, alongside⟩
  | cons entry others ih =>
    rw [List.all_cons, Bool.and_eq_true] at kept
    have named := alongside.after? isMask kept.1 nofun
    rw [List.findSome?_cons, List.findSome?_cons]
    generalize Text.after? entry.1 text = one at named ⊢
    generalize Text.after? entry.1 masked = other at named ⊢
    cases named with
    | none => exact ih kept.2
    | some left => exact ⟨rfl, left⟩

/-- Lengths are read alike. -/
theorem Length.read?_alongside (isMask : IsMask mask) (alongside : Alongside mask text masked) :
    SameReading mask (Length.read? text) (Length.read? masked) := by
  unfold Length.read?
  refine (number?_alongside isMask alongside).map (fun left => ?_) fun left => ?_
  · exact congrArg (Length.mk _) (Unit.read_alongside isMask left).1
  · exact (Unit.read_alongside isMask left).2

/-- **A length** is the same in a masked value. -/
theorem Length.parse?_masked (isMask : IsMask mask) (aligned : Aligned mask text masked) :
    Length.parse? masked = Length.parse? text := by
  have both := Length.read?_alongside isMask aligned.alongside
  unfold Length.parse?
  generalize Length.read? text = one at both
  generalize Length.read? masked = other at both
  cases both with
  | none => rfl
  | @some length rest rest' left =>
    cases rest with
    | nil =>
      have ended := left.isEmpty_eq isMask
      rw [List.isEmpty_iff.mp ended.symm]
    | cons c rest =>
      cases rest' with
      | nil => exact absurd (left.isEmpty_eq isMask) (by simp)
      | cons => rfl

/-- **A view** is the same in a masked value. -/
theorem View.parse?_masked (isMask : IsMask mask) (aligned : Aligned mask text masked) :
    View.parse? masked = View.parse? text := by
  have both := numbers?_alongside isMask 4 aligned.alongside
  unfold View.parse?
  generalize numbers? 4 text = one at both
  generalize numbers? 4 masked = other at both
  cases both with
  | none => rfl
  | some values left =>
    match values with
    | [] | [_] | [_, _] | [_, _, _] | [_, _, _, _] | _ :: _ :: _ :: _ :: _ :: _ => rfl

/-! ### Points -/

theorem Outline.points_eq (text : Text) : Outline.points text =
    match numbers? 2 text with
    | some ([x, y], rest) => ⟨x.convert .single, y.convert .single⟩ :: Outline.points rest
    | _ => [] := by
  rw [Outline.points]
  split
  · next numbers => simp only [numbers]
  · next other =>
    split
    · next numbers => exact absurd numbers (other _ _ _)
    · rfl

/-- Points are read alike. -/
theorem Outline.points_alongside (isMask : IsMask mask) (alongside : Alongside mask text masked) :
    Outline.points masked = Outline.points text := by
  induction size : text.length using Nat.strongRecOn generalizing text masked with
  | _ n ih =>
    subst size
    have both := numbers?_alongside isMask 2 alongside
    have shorter {rest : Text} {values : List Double} (read : numbers? 2 text = some (values, rest)) :=
      length_add_le_of_numbers? read
    rw [Outline.points_eq, Outline.points_eq]
    generalize numbers? 2 text = one at both shorter
    generalize numbers? 2 masked = other at both
    cases both with
    | none => rfl
    | some values left =>
      match values with
      | [x, y] =>
        have := shorter rfl
        exact congrArg _ (ih _ (by omega) left rfl)
      | [] | [_] | _ :: _ :: _ :: _ => rfl

/-- **The outline of a list of points** is the same in a masked value. -/
theorem Outline.ofPoints?_masked (isMask : IsMask mask) (aligned : Aligned mask text masked)
    (closed : Bool) : Outline.ofPoints? closed masked = Outline.ofPoints? closed text := by
  unfold Outline.ofPoints?
  rw [Outline.points_alongside isMask aligned.alongside]

/-! ### Paths -/

theorem commands_eq (last : Option (CommandKind × Bool)) (text : Text) : commands last text =
    (nextCommand? last (Text.skipSpace text)).elim [] fun (kind, relative, inner) =>
      (numbers? kind.count inner).elim [] fun (values, rest) =>
        ⟨kind, relative, values⟩ :: commands (some (kind, relative)) rest := by
  rw [commands]
  split
  · next none => simp only [none, Option.elim_none]
  · next next =>
    simp only [next, Option.elim_some]
    split
    · next none => simp only [none, Option.elim_none]
    · next read => simp only [read, Option.elim_some]

/-- No number starts with another character. -/
theorem number?_of_other (space : Char.isSpace c = false) (other : startsNumber c = false)
    (text : Text) : number? (c :: text) = none := by
  simp only [startsNumber, Bool.or_eq_false_iff, decide_eq_false_iff_not] at other
  obtain ⟨⟨⟨digit, point⟩, plus⟩, minus⟩ := other
  have start : Text.skipSpace (c :: text) = c :: text :=
    List.dropWhile_cons_of_neg (by simp [space])
  have whole : (c :: text).dropWhile Char.isDigit = c :: text :=
    List.dropWhile_cons_of_neg (by simp [digit])
  have none : (c :: text).takeWhile Char.isDigit = [] :=
    List.takeWhile_cons_of_neg (by simp [digit])
  have mantissa : mantissa? (c :: text) = Option.none := by
    rw [mantissa?_of_not_point, none]
    · rfl
    · intro rest same
      rw [whole] at same
      exact point (List.cons.inj same).1
  unfold number?
  rw [start, sign_cons, if_neg minus, if_neg plus]
  simp only [mantissa]

/-- No number starts with a letter. -/
theorem numbers?_of_isAlpha (letter : c.isAlpha = true) (count : Nat) (text : Text) :
    numbers? (count + 1) (c :: text) = none := by
  have other := Text.of_isAlphanum
    (P := fun c => c.isAlpha = true → Char.isSpace c = false ∧ startsNumber c = false)
    (by decide +kernel) (Bool.or_eq_true_iff.mpr (.inl letter)) letter
  rw [numbers?, listNumber?, number?_of_other other.1 other.2]
  rfl

/-- What is drawn next in both texts, unless the word stands there. -/
theorem nextCommand?_same (last : Option (CommandKind × Bool))
    (alongside : Alongside mask (c :: text) (c :: masked)) (behind : Alongside mask text masked) :
    Option.Rel (fun next next' => next.1 = next'.1 ∧ next.2.1 = next'.2.1 ∧
        Alongside mask next.2.2 next'.2.2)
      (nextCommand? last (c :: text)) (nextCommand? last (c :: masked)) := by
  unfold nextCommand?
  simp only
  split
  · split
    · exact .none
    · exact .some ⟨rfl, rfl, behind⟩
  · split
    · cases last with
      | none => exact .none
      | some last =>
        obtain ⟨kind, relative⟩ := last
        rw [Option.bind_some, Option.bind_some]
        cases kind.next? with
        | none => exact .none
        | some kind => exact .some ⟨rfl, rfl, alongside⟩
    · exact .none

/-- The commands of a path end where the word stands, and where it is masked. -/
theorem commands_of_swapped (last : Option (CommandKind × Bool)) {letter : Char}
    (isLetter : letter = 'c' ∨ letter = 'C')
    (swapped : Swapped mask (letter :: text) ('#' :: masked))
    (source : Text.skipSpace rest = letter :: text) (target : Text.skipSpace rest' = '#' :: masked) :
    commands last rest = [] ∧ commands last rest' = [] := by
  constructor
  · obtain ⟨second, others, rfl, isSecond⟩ := exists_second_of_swapped swapped
    have cubic : CommandKind.ofLetter? letter = some .cubic := by
      rcases isLetter with rfl | rfl <;> rfl
    rw [commands_eq, source, nextCommand?, cubic]
    simp only
    split
    · rfl
    · have none : numbers? CommandKind.cubic.count (second :: others) = none :=
        numbers?_of_isAlpha (by rcases isSecond with rfl | rfl <;> rfl) 5 others
      rw [Option.elim_some, none, Option.elim_none]
  · rw [commands_eq, target]
    rfl

/-- **The commands of a path** are the same in a masked value. -/
theorem commands_alongside (isMask : IsMask mask) (last : Option (CommandKind × Bool))
    (alongside : Alongside mask text masked) : commands last masked = commands last text := by
  induction size : text.length using Nat.strongRecOn generalizing last text masked with
  | _ n ih =>
    subst size
    have left := alongside.skipSpace isMask
    have skipped := Text.length_skipSpace_le text
    generalize source : Text.skipSpace text = rest at left skipped
    generalize target : Text.skipSpace masked = rest' at left
    cases left.next isMask with
    | ended => rw [commands_eq, commands_eq last text, source, target]
    | swapped isLetter swapped =>
      obtain ⟨none, none'⟩ := commands_of_swapped last isLetter swapped source target
      rw [none, none']
    | same c behind =>
      rename_i rest rest'
      have next := nextCommand?_same last left behind.alongside
      have shorter {kind : CommandKind} {relative : Bool} {inner : Text}
          (found : nextCommand? last (c :: rest) = some (kind, relative, inner)) :=
        length_lt_add_of_nextCommand? found
      rw [commands_eq, commands_eq last text, source, target]
      generalize nextCommand? last (c :: rest) = one at next shorter
      generalize nextCommand? last (c :: rest') = other at next
      cases next with
      | none => rfl
      | @some next next' both =>
        obtain ⟨kind, relative, inner⟩ := next
        obtain ⟨kind', relative', inner'⟩ := next'
        obtain ⟨same, same', inners⟩ := both
        simp only at same same' inners
        subst same same'
        simp only [Option.elim_some]
        have numbers := numbers?_alongside isMask kind.count inners
        have shorter' {values : List Double} {behind : Text}
            (found : numbers? kind.count inner = some (values, behind)) :=
          length_add_le_of_numbers? found
        generalize numbers? kind.count inner = one at numbers shorter'
        generalize numbers? kind.count inner' = other at numbers
        cases numbers with
        | none => rfl
        | some values behind =>
          have := shorter rfl
          have := shorter' rfl
          exact congrArg _ (ih _ (by omega) _ behind rfl)

/-- **The outline of a path** is the same in a masked value. -/
theorem Outline.ofPath?_masked (isMask : IsMask mask) (aligned : Aligned mask text masked) :
    Outline.ofPath? masked = Outline.ofPath? text := by
  unfold Outline.ofPath?
  rw [commands_alongside isMask none aligned.alongside]

end IconComponents.Svg
