/-
**A terminal that shows what is printed.**

A terminal reads text character by character. It puts a character where its cursor is, and it obeys
control sequences: they move the cursor within its line, clear the line or the rest of it, or choose
colours, which are not looked at here. At the end of a line the cursor goes to a new line.

* `Terminal.feed` — the terminal after a text;
* `feed_append` — texts one after the other;
* `feed_of_isPlain` — a text without control characters behind the cursor's line;
* `feed_clearLine`, `feed_clearRest`, `feed_heading` — the sequences that the console prints.
-/

import Mathlib.Data.List.TakeDrop
import IconComponents.Console
import IconComponents.Text.Digits

namespace IconComponents

/-- Whether a character is a control character. -/
def isControl (c : Char) : Bool := c.toNat < 0x20 || (0x7F ≤ c.toNat && c.toNat < 0xA0)

/-- A text without control characters. -/
def Text.IsPlain (text : Text) : Prop := ∀ c ∈ text, isControl c = false

instance (text : Text) : Decidable text.IsPlain :=
  List.decidableBAll (fun c => isControl c = false) text

/-- The control sequence that a terminal is reading, if there is one: only its escape character, or
also its parameters up to here. -/
inductive Pending where
  | none
  | escape
  | sequence (parameters : Text)
  deriving Repr, DecidableEq

/-- What a terminal shows, and where it goes on: the complete lines from the top on, the line and
the column of the cursor, and the control sequence that is being read. -/
structure Terminal where
  above : List Text
  line : Text
  column : Nat
  pending : Pending
  deriving Repr, DecidableEq

namespace Terminal

/-- A terminal whose cursor is behind its last line. -/
def showing (above : List Text) (line : Text) : Terminal := ⟨above, line, line.length, .none⟩

/-- Put a character at the cursor, over what is there. -/
def put (terminal : Terminal) (c : Char) : Terminal :=
  { terminal with
    line := terminal.line.takeD terminal.column ' ' ++ c :: terminal.line.drop (terminal.column + 1)
    column := terminal.column + 1 }

/-- Complete the line and go to the start of a new one. -/
def newLine (terminal : Terminal) : Terminal :=
  { terminal with above := terminal.above ++ [terminal.line], line := [], column := 0 }

/-- Obey a control sequence. Columns are counted from one in it; sequences that are not known have
no effect. -/
def obey (terminal : Terminal) (parameters : Text) (final : Char) : Terminal :=
  if final = 'G' then { terminal with column := Text.numberOf 10 parameters - 1 }
  else if final = 'K' then
    if parameters = ['2'] then { terminal with line := [] }
    else if parameters = [] then { terminal with line := terminal.line.take terminal.column }
    else terminal
  else terminal

/-- Whether a character ends a control sequence. -/
def isFinal (c : Char) : Bool := 0x40 ≤ c.toNat && c.toNat ≤ 0x7E

/-- Read a character. -/
def read (terminal : Terminal) (c : Char) : Terminal :=
  match terminal.pending with
  | .none =>
    if c = '\x1b' then { terminal with pending := .escape }
    else if c = '\n' then terminal.newLine
    else if isControl c then terminal
    else terminal.put c
  | .escape => { terminal with pending := if c = '[' then .sequence [] else .none }
  | .sequence parameters =>
    if isFinal c then { terminal.obey parameters c with pending := .none }
    else { terminal with pending := .sequence (parameters ++ [c]) }

/-- Read a text. -/
def feed (terminal : Terminal) (text : Text) : Terminal := text.foldl read terminal

variable {terminal : Terminal} {above : List Text} {line text : Text} {c : Char}

/-- Texts are fed one after the other. -/
theorem feed_append (terminal : Terminal) (text more : Text) :
    terminal.feed (text ++ more) = (terminal.feed text).feed more := List.foldl_append

/-! ### Plain text -/

theorem read_of_not_isControl (plain : isControl c = false) :
    (showing above line).read c = showing above (line ++ [c]) := by
  have escape : c ≠ '\x1b' := by rintro rfl; exact absurd plain (by decide)
  have newLine : c ≠ '\n' := by rintro rfl; exact absurd plain (by decide)
  have here : line.takeD line.length ' ' = line := by
    rw [List.takeD_eq_take _ (Nat.le_refl _), List.take_length]
  have behind : line.drop (line.length + 1) = [] := List.drop_of_length_le (Nat.le_succ _)
  simp only [read, showing, if_neg escape, if_neg newLine, plain, Bool.false_eq_true, if_false, put,
    here, behind, List.length_append, List.length_singleton]

/-- **A text without control characters** comes behind the cursor's line. -/
theorem feed_of_isPlain (plain : text.IsPlain) :
    (showing above line).feed text = showing above (line ++ text) := by
  induction text generalizing line with
  | nil => rw [List.append_nil]; rfl
  | cons c text ih =>
    obtain ⟨first, others⟩ := List.forall_mem_cons.mp plain
    rw [feed, List.foldl_cons, read_of_not_isControl first, ← feed, ih others, List.append_assoc,
      List.singleton_append]

theorem feed_newLine : (showing above line).feed ['\n'] = showing (above ++ [line]) [] := rfl

/-! ### Control sequences -/

/-- **Clearing the line** takes all of it away. -/
theorem feed_clearLine : (showing above line).feed Console.clearLine = showing above [] := rfl

/-- Behind the cursor's line there is nothing to clear. -/
theorem feed_clearRest : (showing above line).feed Console.clearRest = showing above line := by
  have cleared : (showing above line).feed Console.clearRest =
      (showing above line).obey [] 'K' := rfl
  rw [cleared, obey, if_neg (by decide), if_pos rfl, if_neg (by decide), if_pos rfl]
  simp only [showing, List.take_length]

/-- The sequences that choose a colour or bold letters. -/
def styles : List String := ["0m", "1m", "39m", "91m", "92m", "93m", "94m"]

/-- Choosing a colour changes nothing that is looked at. -/
theorem feed_style {body : String} (style : body ∈ styles) :
    (showing above line).feed (Console.control body) = showing above line := by
  simp only [styles, List.mem_cons, List.not_mem_nil, or_false] at style
  rcases style with rfl | rfl | rfl | rfl | rfl | rfl | rfl <;> rfl

/-- The colour of a topic is one of the styles. -/
theorem colorOf_eq (topic : Text) :
    ∃ body ∈ styles, Console.colorOf topic = Console.control body := by
  unfold Console.colorOf
  dsimp only
  split
  · exact ⟨"94m", by decide, rfl⟩
  · split
    · exact ⟨"92m", by decide, rfl⟩
    · split
      · exact ⟨"91m", by decide, rfl⟩
      · exact ⟨"93m", by decide, rfl⟩

/-- A topic as it is shown. -/
def shownTopic (topic : Text) : Text := '[' :: topic ++ [']']

/-- **A topic is shown in brackets**, whatever its colour is. -/
theorem feed_heading {topic : Text} (plain : topic.IsPlain) :
    (showing above line).feed (Console.heading topic) =
      showing above (line ++ shownTopic topic) := by
  obtain ⟨color, style, colored⟩ := colorOf_eq topic
  have name : Text.IsPlain (shownTopic topic) := by
    intro c member
    rw [shownTopic, List.mem_append, List.mem_cons, List.mem_singleton] at member
    rcases member with (rfl | member) | rfl
    · rfl
    · exact plain c member
    · rfl
  have parts : Console.heading topic = Console.control "1m" ++ (Console.control color ++
      (shownTopic topic ++ (Console.control "39m" ++ Console.control "0m"))) := by
    simp only [Console.heading, colored, shownTopic, List.append_assoc, List.cons_append,
      List.nil_append]
  rw [parts, feed_append, feed_style (by decide), feed_append, feed_style style, feed_append,
    feed_of_isPlain name, feed_append, feed_style (by decide), feed_style (by decide)]

end Terminal

end IconComponents
