/-
**Which names fit a pattern.**

A name fits a pattern if it comes apart into what the tokens stand for. The comparison of a name
with a pattern keeps, token by token, all that can be left of the name, and takes wildcards from
the longest rest only; that finds the same names.

* `Token.StandsFor`, `Pattern.Fits` — what tokens stand for, and the names that fit;
* `mem_rests_iff` — what can be left of a name behind a pattern;
* `accepts_iff_fits` — the comparison accepts the names that fit;
* `literal?_eq_some_iff`, `fits_ofText_iff` — a pattern without wildcards stands for one name;
* `parseFrom_plain`, `parseFrom_eq_ok` — characters without a meaning of their own are read as
  themselves, and where a text stands does not matter for its tokens;
* `mem_of_char_mem` — what a pattern holds as itself stands in its text.
-/

import Mathlib.Data.List.Basic
import IconComponents.Glob.Pattern

namespace IconComponents

/-- A range holds a character. -/
def CharRange.Holds (range : CharRange) (c : Char) : Prop :=
  range.first.toNat ≤ c.toNat ∧ c.toNat ≤ range.last.toNat

/-- What a token stands for that stands for one character. -/
def Token.StandsFor : Token → Char → Prop
  | char c, d => c = d
  | any, _ => True
  | within ranges, d => ∃ range ∈ ranges, range.Holds d
  | outside ranges, d => ∀ range ∈ ranges, ¬ range.Holds d
  | sequence, _ => False
  | directories, _ => False

/-- A token that stands for any number of characters of a name. -/
def Token.IsRun (token : Token) : Prop := token = sequence ∨ token = directories

namespace Pattern

variable {pattern : Pattern} {token : Token} {name rest : Text} {rests : List Text} {c : Char}

/-- The names of a pattern. -/
inductive Fits : Pattern → Text → Prop
  | nil : Fits [] []
  | one {token : Token} {c : Char} {tokens : Pattern} {rest : Text} (stands : token.StandsFor c)
      (fits : Fits tokens rest) : Fits (token :: tokens) (c :: rest)
  | run {token : Token} {tokens : Pattern} {rest : Text} (isRun : token.IsRun) (taken : Text)
      (fits : Fits tokens rest) : Fits (token :: tokens) (taken ++ rest)

/-! ### What can be left of a name -/

/-- A token accepts the characters that it stands for. -/
theorem accepts1_iff : accepts1 token c = true ↔ token.StandsFor c := by
  cases token <;> simp [accepts1, Token.StandsFor, CharRange.has, CharRange.Holds]

theorem mem_ends_iff {text : Text} : rest ∈ ends text ↔ rest <:+ text := by
  induction text with
  | nil => simp [ends]
  | cons c text ih => rw [ends, List.mem_cons, ih, List.suffix_cons_iff]

/-- Rests of one name, the longest first. -/
def AreRests (rests : List Text) : Prop := rests.Pairwise fun longer shorter => shorter <:+ longer

/-- The ends of a text are its rests, the longest first. -/
theorem areRests_ends (text : Text) : AreRests (ends text) := by
  induction text with
  | nil => exact List.pairwise_singleton _ _
  | cons c text ih =>
    exact List.pairwise_cons.mpr
      ⟨fun rest member => (mem_ends_iff.mp member).trans (List.suffix_cons c text), ih⟩

/-- What is left of a text behind one character that a token stands for. -/
def restBehind? (token : Token) : Text → Option Text
  | [] => none
  | c :: rest => if accepts1 token c then some rest else none

theorem restBehind?_eq_some_iff {start : Text} :
    restBehind? token start = some rest ↔ ∃ c, token.StandsFor c ∧ start = c :: rest := by
  cases start with
  | nil => simp [restBehind?]
  | cons c start =>
    rw [restBehind?]
    by_cases accepted : accepts1 token c = true
    · rw [if_pos accepted]
      constructor
      · rintro ⟨⟩
        exact ⟨c, accepts1_iff.mp accepted, rfl⟩
      · rintro ⟨_, -, ⟨⟩⟩
        rfl
    · rw [if_neg accepted]
      refine iff_of_false (by simp) ?_
      rintro ⟨_, stands, ⟨⟩⟩
      exact accepted (accepts1_iff.mpr stands)

theorem restsBehind_one (one : ¬ token.IsRun) (rests : List Text) :
    restsBehind token rests = rests.filterMap (restBehind? token) := by
  have shape : restsBehind token rests = rests.filterMap fun
      | [] => none
      | c :: rest => if accepts1 token c then some rest else none := by
    cases token <;> first | rfl | exact absurd (Or.inl rfl) one | exact absurd (Or.inr rfl) one
  rw [shape]
  refine List.filterMap_congr fun start _ => ?_
  cases start <;> rfl

theorem restsBehind_run (run : token.IsRun) (longest : Text) :
    restsBehind token (longest :: rests) = ends longest := by
  rcases run with rfl | rfl <;> rfl

theorem restsBehind_nil (token : Token) : restsBehind token [] = [] := by
  cases token <;> rfl

/-- What is left behind one character. -/
theorem mem_restsBehind_one (one : ¬ token.IsRun) :
    rest ∈ restsBehind token rests ↔ ∃ c, token.StandsFor c ∧ c :: rest ∈ rests := by
  rw [restsBehind_one one, List.mem_filterMap]
  simp only [restBehind?_eq_some_iff]
  constructor
  · rintro ⟨_, member, c, stands, rfl⟩
    exact ⟨c, stands, member⟩
  · rintro ⟨c, stands, member⟩
    exact ⟨_, member, c, stands, rfl⟩

/-- What is left behind any number of characters. -/
theorem mem_restsBehind_run (areRests : AreRests rests) (run : token.IsRun) :
    rest ∈ restsBehind token rests ↔ ∃ start ∈ rests, rest <:+ start := by
  cases rests with
  | nil => simp [restsBehind_nil]
  | cons longest rests =>
    rw [restsBehind_run run, mem_ends_iff]
    constructor
    · exact fun within => ⟨longest, List.mem_cons_self, within⟩
    · rintro ⟨start, member, within⟩
      rcases List.mem_cons.mp member with rfl | member
      · exact within
      · exact within.trans ((List.pairwise_cons.mp areRests).1 start member)

/-- Rests behind a token are rests. -/
theorem areRests_restsBehind (areRests : AreRests rests) : AreRests (restsBehind token rests) := by
  by_cases run : token.IsRun
  · cases rests with
    | nil =>
      rw [restsBehind_nil]
      exact List.Pairwise.nil
    | cons longest rests => exact restsBehind_run run longest ▸ areRests_ends longest
  · rw [restsBehind_one run]
    refine List.Pairwise.filterMap (restBehind? token) ?_ areRests
    intro longer shorter within rest left rest' left'
    obtain ⟨c, -, rfl⟩ := restBehind?_eq_some_iff.mp left
    obtain ⟨d, -, rfl⟩ := restBehind?_eq_some_iff.mp left'
    rcases List.suffix_cons_iff.mp within with same | within
    · exact (List.cons.inj same).2 ▸ List.suffix_refl _
    · exact (List.suffix_cons d rest').trans within

/-- **What can be left of a name behind a pattern** is what stands behind a part that fits. -/
theorem mem_rests_iff (areRests : AreRests rests) :
    rest ∈ pattern.foldl (fun rests token => restsBehind token rests) rests ↔
      ∃ taken, Fits pattern taken ∧ taken ++ rest ∈ rests := by
  induction pattern generalizing rests with
  | nil =>
    constructor
    · exact fun member => ⟨[], .nil, member⟩
    · rintro ⟨taken, fits, member⟩
      cases fits
      exact member
  | cons token tokens ih =>
    rw [List.foldl_cons, ih (areRests_restsBehind areRests)]
    by_cases run : token.IsRun
    · simp only [mem_restsBehind_run areRests run]
      constructor
      · rintro ⟨taken, fits, start, member, ahead, rfl⟩
        exact ⟨ahead ++ taken, .run run ahead fits, by rwa [List.append_assoc]⟩
      · rintro ⟨taken, fits, member⟩
        cases fits with
        | one stands => rcases run with rfl | rfl <;> cases stands
        | run _ ahead fits =>
          exact ⟨_, fits, _, member, ahead, (List.append_assoc _ _ _).symm⟩
    · simp only [mem_restsBehind_one run]
      constructor
      · rintro ⟨taken, fits, c, stands, member⟩
        exact ⟨c :: taken, .one stands fits, member⟩
      · rintro ⟨taken, fits, member⟩
        cases fits with
        | one stands fits => exact ⟨_, fits, _, stands, member⟩
        | run isRun => exact absurd isRun run

/-- **The comparison accepts exactly the names that fit.** -/
theorem accepts_iff_fits : pattern.accepts name = true ↔ pattern.Fits name := by
  have start : AreRests [name] := List.pairwise_singleton _ _
  have empty : pattern.accepts name = true ↔
      [] ∈ pattern.foldl (fun rests token => restsBehind token rests) [name] := by
    simp [accepts]
  rw [empty, mem_rests_iff start]
  simp

/-! ### Patterns without wildcards -/

/-- The pattern of one text. -/
def ofText (text : Text) : Pattern := text.map .char

/-- A pattern is a plain text exactly if it is the pattern of this text. -/
theorem literal?_eq_some_iff : pattern.literal? = some name ↔ pattern = ofText name := by
  induction pattern generalizing name with
  | nil => cases name <;> simp [literal?, ofText]
  | cons token tokens ih =>
    cases token with
    | char c =>
      rw [literal?, Option.map_eq_some_iff]
      simp only [ih, ofText]
      constructor
      · rintro ⟨rest, rfl, rfl⟩
        rfl
      · intro same
        obtain ⟨d, rest, rfl, head, tail⟩ := List.map_eq_cons_iff.mp same.symm
        cases head
        exact ⟨rest, tail.symm, rfl⟩
    | _ =>
      refine iff_of_false (by simp [literal?]) fun same => ?_
      obtain ⟨_, _, -, head, -⟩ := List.map_eq_cons_iff.mp same.symm
      cases head

/-- The pattern of a text fits this text only. -/
theorem fits_ofText_iff {text : Text} : Fits (ofText text) name ↔ name = text := by
  induction text generalizing name with
  | nil =>
    constructor
    · rintro ⟨⟩
      rfl
    · rintro rfl
      exact .nil
  | cons c text ih =>
    constructor
    · intro fits
      cases fits with
      | one stands fits => rw [ih.mp fits, show c = _ from stands]
      | run isRun => rcases isRun with isRun | isRun <;> cases isRun
    · rintro rfl
      exact .one rfl (ih.mpr rfl)

/-! ### Reading patterns -/

/-- A character without a meaning of its own. -/
def IsPlain (c : Char) : Prop := c ≠ '?' ∧ c ≠ '*' ∧ c ≠ '['

instance (c : Char) : Decidable (IsPlain c) :=
  inferInstanceAs (Decidable (c ≠ '?' ∧ c ≠ '*' ∧ c ≠ '['))

theorem parseFrom_cons {position : Nat} {fresh : Bool} (plain : IsPlain c) (text : Text) :
    parseFrom position fresh (c :: text) =
      (parseFrom (position + 1) (c = '/') text).map (.char c :: ·) := by
  obtain ⟨notAny, notRun, notSet⟩ := plain
  rw [parseFrom] <;> simp_all

theorem toOption_map {α β : Type} (f : α → β) (result : Except Flaw α) :
    (result.map f).toOption = result.toOption.map f := by
  cases result <;> rfl

/-- **Where a text stands does not matter** for its tokens. -/
theorem parseFrom_toOption (position other : Nat) (fresh : Bool) (text : Text) :
    (parseFrom other fresh text).toOption = (parseFrom position fresh text).toOption := by
  fun_induction parseFrom position fresh text generalizing other with
  | case1 => rw [parseFrom]
  | case2 position fresh text ih => rw [parseFrom, toOption_map, toOption_map, ih]
  | case3 =>
    rw [parseFrom]
    rfl
  | case4 =>
    rw [parseFrom]
    rfl
  | case5 position fresh within =>
    rw [parseFrom, if_neg within]
    rfl
  | case6 position fresh c text single within =>
    rw [parseFrom, if_pos within]
    · rfl
    · exact single
  | case7 position fresh text own single ih =>
    rw [parseFrom, if_neg own, if_pos rfl, toOption_map, toOption_map, ih]
    exact single
  | case8 position fresh c text single own glued =>
    rw [parseFrom, if_neg own, if_neg glued]
    · rfl
    · exact single
  | case9 position fresh text single short long ih =>
    rw [parseFrom, toOption_map, toOption_map, ih]
    all_goals assumption
  | case10 position fresh inner open? =>
    rw [parseFrom]
    split
    · rfl
    · next token rest found => rw [open?] at found; cases found
  | case11 position fresh inner token rest found shorter next ih =>
    rw [parseFrom]
    split
    · next none => rw [found] at none; cases none
    · next token' rest' found' =>
      rw [found] at found'
      cases found'
      rw [toOption_map, toOption_map, ih]
  | case12 position fresh c text any _ _ _ run set ih =>
    rw [parseFrom_cons ⟨any, run, set⟩, toOption_map, toOption_map, ih]

/-- Where a pattern starts matters for its flaws only. -/
theorem parseFrom_eq_ok {position : Nat} {fresh : Bool} {text : Text}
    (parsed : parseFrom position fresh text = .ok pattern) (other : Nat) :
    parseFrom other fresh text = .ok pattern := by
  have same := parseFrom_toOption position other fresh text
  rw [parsed] at same
  cases there : parseFrom other fresh text with
  | error flaw => rw [there] at same; cases same
  | ok tokens => rw [there] at same; cases same; rfl

/-- **A plain directory in front of a pattern is read as itself.** -/
theorem parseFrom_plain {plain : Text} (isPlain : ∀ c ∈ plain, IsPlain c) {text : Text}
    (parsed : parse text = .ok pattern) (position : Nat) (fresh : Bool) :
    parseFrom position fresh (plain ++ '/' :: text) = .ok (ofText (plain ++ ['/']) ++ pattern) := by
  induction plain generalizing position fresh with
  | nil =>
    have slash : IsPlain '/' := by decide
    rw [List.nil_append, parseFrom_cons slash, decide_eq_true rfl, parseFrom_eq_ok parsed]
    rfl
  | cons c plain ih =>
    obtain ⟨first, others⟩ := List.forall_mem_cons.mp isPlain
    rw [List.cons_append, parseFrom_cons first, ih others]
    rfl

/-- A plain text is read as its pattern. -/
theorem parse_plain {plain : Text} (isPlain : ∀ c ∈ plain, IsPlain c) (position : Nat)
    (fresh : Bool) : parseFrom position fresh plain = .ok (ofText plain) := by
  induction plain generalizing position fresh with
  | nil => rw [parseFrom]; rfl
  | cons c plain ih =>
    obtain ⟨first, others⟩ := List.forall_mem_cons.mp isPlain
    rw [parseFrom_cons first, ih others]
    rfl

theorem suffix_of_bracket? {text inside : Text} (found : bracket? text = some (inside, rest)) :
    rest <:+ text := by
  unfold bracket? at found
  split at found
  · cases found
  · next c text =>
    split at found
    · cases found
    · next closing behind closed =>
      cases found
      have dropped := List.dropWhile_suffix (l := text) (· != ']')
      rw [closed] at dropped
      exact ((List.suffix_cons closing _).trans dropped).trans (List.suffix_cons c text)

theorem suffix_of_set? {text : Text} (found : set? text = some (token, rest)) : rest <:+ text := by
  unfold set? at found
  split at found
  · next inner =>
    obtain ⟨⟨inside, _⟩, read, same⟩ := Option.map_eq_some_iff.mp found
    cases same
    exact (suffix_of_bracket? read).trans (List.suffix_cons '!' inner)
  · obtain ⟨⟨inside, _⟩, read, same⟩ := Option.map_eq_some_iff.mp found
    cases same
    exact suffix_of_bracket? read

theorem ne_char_of_set? {text : Text} (found : set? text = some (token, rest)) :
    .char c ≠ token := by
  rintro rfl
  unfold set? at found
  split at found
  · obtain ⟨_, -, same⟩ := Option.map_eq_some_iff.mp found
    cases same
  · obtain ⟨_, -, same⟩ := Option.map_eq_some_iff.mp found
    cases same

theorem char_mem_of_map {result : Except Flaw Pattern}
    (mapped : result.map (token :: ·) = .ok pattern) (member : .char c ∈ pattern) :
    .char c = token ∨ ∃ tokens, result = .ok tokens ∧ .char c ∈ tokens := by
  cases result with
  | error flaw => cases mapped
  | ok tokens =>
    cases mapped
    exact (List.mem_cons.mp member).imp id fun member => ⟨tokens, rfl, member⟩

/-- A character that a pattern holds as itself stands in its text. -/
theorem mem_of_char_mem {position : Nat} {fresh : Bool} {text : Text}
    (parsed : parseFrom position fresh text = .ok pattern) (member : .char c ∈ pattern) :
    c ∈ text := by
  fun_induction parseFrom position fresh text generalizing pattern with
  | case1 | case4 =>
    cases parsed
    simp at member
  | case2 position fresh text ih | case9 position fresh text _ _ _ ih =>
    obtain same | ⟨tokens, read, member⟩ := char_mem_of_map parsed member
    · cases same
    · exact List.mem_cons_of_mem _ (ih read member)
  | case3 | case5 | case6 | case8 | case10 => cases parsed
  | case7 position fresh text own single ih =>
    obtain same | ⟨tokens, read, member⟩ := char_mem_of_map parsed member
    · cases same
    · exact List.mem_append_right ['*', '*', '/'] (ih read member)
  | case11 position fresh inner token rest found shorter next =>
    rename_i ih
    obtain same | ⟨tokens, read, member⟩ := char_mem_of_map parsed member
    · exact absurd same (ne_char_of_set? found)
    · exact List.mem_cons_of_mem _ ((suffix_of_set? found).subset (ih read member))
  | case12 position fresh d text any _ _ _ run set ih =>
    obtain same | ⟨tokens, read, member⟩ := char_mem_of_map parsed member
    · cases same
      exact List.mem_cons_self
    · exact List.mem_cons_of_mem _ (ih read member)

end Pattern

end IconComponents
