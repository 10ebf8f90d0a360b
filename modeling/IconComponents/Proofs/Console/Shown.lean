/-
**What is seen of the messages and the counter.**

Messages and the counter write to one terminal: a message takes the counter's line, and the counter
is drawn again below when it changes. Which lines are completed can be said without the terminal,
from what happened before: every message completes one, every detail that is printed, and every
counter that is finished.

* `Tally`, `tally?` — the counter that is shown after a past, with how often it was advanced;
* `lineOf?`, `lines` — the line that an action completes, and all lines of a past;
* `lastLine` — the counter, if it was drawn since the last line was completed;
* `seen_of_line`, `seen_of_drawn` — what an action may change of what is seen;
* `feed_write` — one action: what is seen before and after it;
* `feed_writeAll` — any actions: what is seen of them.

A past is a list of actions with the last one first.
-/

import Mathlib.Data.List.Induction
import IconComponents.Proofs.Console.Terminal
import IconComponents.Proofs.Text.Scan

namespace IconComponents

namespace Console

/-! ### From what happened before -/

/-- A counter: its name, how far it counts, and how often it was advanced. -/
structure Tally where
  name : Text
  total : Nat
  count : Nat
  deriving Repr, DecidableEq

/-- The counter as it is seen: it does not go beyond its total. -/
def Tally.text (tally : Tally) : Text :=
  tally.name ++ "(".toList ++ Text.ofNat (min tally.count tally.total) ++ "/".toList ++
    Text.ofNat tally.total ++ ")".toList

/-- Whether details are printed after a past: as it was said last. -/
def isVerbose : List Action → Bool
  | [] => false
  | .setVerbose on :: _ => on
  | _ :: past => isVerbose past

/-- The counter that is shown after a past: started, and since then neither finished nor taken
away. -/
def tally? : List Action → Option Tally
  | [] => none
  | .start name total :: _ => some ⟨name, total, 0⟩
  | .advance :: past => (tally? past).map fun tally => { tally with count := tally.count + 1 }
  | .finish :: _ => none
  | .drop :: _ => none
  | _ :: past => tally? past

/-- A message as it is seen. -/
def messageLine (topic words : Text) : Text := Terminal.shownTopic topic ++ [' '] ++ words

/-- A counter's line as it is seen. -/
def counterLine (tally : Tally) : Text := messageLine "generate".toList tally.text

/-- The line that an action completes after a past. -/
def lineOf? (past : List Action) : Action → Option Text
  | .message topic words => some (messageLine topic words)
  | .detail topic words => if isVerbose past then some (messageLine topic words) else none
  | .finish => (tally? past).map counterLine
  | _ => none

/-- All lines that a past completed. -/
def lines : List Action → List Text
  | [] => []
  | action :: past => lines past ++ (lineOf? past action).toList

/-- Whether the counter was drawn since the last line was completed. -/
def isDrawn : List Action → Bool
  | [] => false
  | .start _ _ :: _ => true
  | .advance :: _ => true
  | action :: past => (lineOf? past action).isNone && isDrawn past

/-- The last line after a past: the counter that is shown, if it was drawn since the last line was
completed, and else nothing. -/
def lastLine (past : List Action) : Text :=
  if isDrawn past then ((tally? past).map counterLine).getD [] else []

/-- The terminal as it is seen after a past. -/
def seen (past : List Action) : Terminal := .showing (lines past) (lastLine past)

/-- The texts of an action have no control characters. -/
def Action.IsPlain : Action → Prop
  | .message topic words => topic.IsPlain ∧ words.IsPlain
  | .detail topic words => topic.IsPlain ∧ words.IsPlain
  | .start name _ => name.IsPlain
  | _ => True

instance (action : Action) : Decidable action.IsPlain := by
  cases action <;> unfold Action.IsPlain <;> infer_instance

variable {past actions : List Action} {action : Action} {console : Console} {topic words : Text}
  {above : List Text} {line : Text} {tally : Tally}

/-! ### The console -/

/-- The counter that the console keeps for a tally. -/
def Tally.counter (tally : Tally) : Counter :=
  ⟨tally.name, tally.total, min tally.count tally.total⟩

/-- A counter is written as its tally says. -/
theorem Tally.text_counter (tally : Tally) : tally.counter.text = tally.text := rfl

theorem Tally.advance_counter (tally : Tally) :
    tally.counter.advance = Tally.counter { tally with count := tally.count + 1 } := by
  have bound : min (min tally.count tally.total + 1) tally.total =
      min (tally.count + 1) tally.total := by omega
  rw [counter, Counter.advance, counter]
  exact congrArg (Counter.mk tally.name tally.total) bound

/-- The console after a past. -/
def after (past : List Action) : Console := ⟨isVerbose past, (tally? past).map Tally.counter⟩

/-- What is written next comes after all that was written. -/
theorem write_after (past : List Action) (action : Action) :
    ((after past).write action).2 = after (action :: past) := by
  cases action with
  | message topic words => rfl
  | detail topic words => rfl
  | setVerbose on => rfl
  | start name total => simp only [write, after, isVerbose, tally?, Option.map_some, Tally.counter,
      Nat.zero_min]
  | advance =>
    cases live : tally? past with
    | none => simp only [write, after, isVerbose, tally?, live, Option.map_none]
    | some tally =>
      simp only [write, after, isVerbose, tally?, live, Option.map_some, Tally.advance_counter]
  | finish => cases live : tally? past <;> simp only [write, after, isVerbose, tally?, live,
      Option.map_none, Option.map_some]
  | drop => rfl

/-! ### One action -/

theorem isPlain_append {text more : Text} (plain : text.IsPlain) (plain' : more.IsPlain) :
    Text.IsPlain (text ++ more) := fun c member =>
  (List.mem_append.mp member).elim (plain c) (plain' c)

theorem isPlain_ofNat (n : Nat) : (Text.ofNat n).IsPlain := by
  intro c member
  have digit := Text.isDigit_ofNat member
  simp only [Char.isDigit, Bool.and_eq_true, decide_eq_true_eq] at digit
  simp only [isControl, Bool.or_eq_false_iff, decide_eq_false_iff_not, Bool.and_eq_false_iff]
  have least : 48 ≤ c.toNat := digit.1
  have most : c.toNat ≤ 57 := digit.2
  omega

/-- The text of a counter with a plain name is plain. -/
theorem Tally.isPlain_text (plain : tally.name.IsPlain) : tally.text.IsPlain := by
  refine isPlain_append (isPlain_append (isPlain_append (isPlain_append (isPlain_append plain ?_)
    (isPlain_ofNat _)) ?_) (isPlain_ofNat _)) ?_ <;> decide

/-- A message behind the cursor's line. -/
theorem feed_messageLine (plain : topic.IsPlain) (plain' : words.IsPlain) :
    (Terminal.showing above []).feed (heading topic ++ [' '] ++ words) =
      .showing above (messageLine topic words) := by
  rw [Terminal.feed_append, Terminal.feed_append, Terminal.feed_heading plain,
    Terminal.feed_of_isPlain (by decide), Terminal.feed_of_isPlain plain', List.nil_append]
  rfl

/-- **Drawing a counter** puts it in place of the cursor's line. -/
theorem feed_draw (plain : tally.name.IsPlain) :
    (Terminal.showing above line).feed (draw tally.counter) =
      .showing above (counterLine tally) := by
  have parts : draw tally.counter =
      clearLine ++ (heading "generate".toList ++ [' '] ++ tally.text) := by
    simp only [draw, Tally.text_counter, List.append_assoc]
  rw [parts, Terminal.feed_append, Terminal.feed_clearLine,
    feed_messageLine (by decide) (Tally.isPlain_text plain)]
  rfl

theorem lastLine_of_none (gone : tally? past = none) : lastLine past = [] := by
  rw [lastLine, gone, Option.map_none, Option.getD_none, ite_self]

/-- **A message** completes the cursor's line, which holds at most the counter. -/
theorem feed_messageText (plain : topic.IsPlain) (plain' : words.IsPlain) :
    (seen past).feed ((after past).messageText topic words) =
      .showing (lines past ++ [messageLine topic words]) [] := by
  have cleared : (seen past).feed
      (if (after past).counter.isSome then clearLine else clearRest) =
      .showing (lines past) [] := by
    split
    · exact Terminal.feed_clearLine
    · next gone =>
      rw [after, Option.isSome_map, Option.not_isSome_iff_eq_none] at gone
      rw [seen, lastLine_of_none gone]
      exact Terminal.feed_clearRest
  have parts : (after past).messageText topic words =
      (if (after past).counter.isSome then clearLine else clearRest) ++
        (heading topic ++ [' '] ++ words ++ ['\n']) := by
    simp only [messageText, List.append_assoc]
  rw [parts, Terminal.feed_append, cleared, Terminal.feed_append, feed_messageLine plain plain',
    Terminal.feed_newLine]

/-- The name of the counter that is shown has no control characters. -/
theorem isPlain_of_tally? (plain : ∀ action ∈ past, action.IsPlain)
    (live : tally? past = some tally) : tally.name.IsPlain := by
  induction past generalizing tally with
  | nil => cases live
  | cons action past ih =>
    obtain ⟨first, others⟩ := List.forall_mem_cons.mp plain
    cases action with
    | start name total => cases live; exact first
    | advance =>
      obtain ⟨before, earlier, rfl⟩ := Option.map_eq_some_iff.mp live
      have name : before.name.IsPlain := ih others earlier
      exact name
    | finish => cases live
    | drop => cases live
    | message topic words => exact ih others live
    | detail topic words => exact ih others live
    | setVerbose on => exact ih others live

/-- What completes a line leaves nothing behind it. -/
theorem seen_of_line (completes : lineOf? past action = some line) :
    seen (action :: past) = .showing (lines past ++ [line]) [] := by
  have drawn : isDrawn (action :: past) = ((lineOf? past action).isNone && isDrawn past) := by
    cases action with
    | start name total => cases completes
    | advance => cases completes
    | _ => rfl
  rw [completes, Option.isNone_some, Bool.false_and] at drawn
  rw [seen, lines, completes, lastLine, drawn]
  rfl

/-- What shows no line and leaves the last one alone changes nothing. -/
theorem seen_of_kept (silent : lineOf? past action = none)
    (last : lastLine (action :: past) = lastLine past) : seen (action :: past) = seen past := by
  rw [seen, lines, silent, last, Option.toList_none, List.append_nil, seen]

/-- A counter that is drawn is the last line. -/
theorem seen_of_drawn (silent : lineOf? past action = none) (drawn : isDrawn (action :: past) = true)
    (shows : tally? (action :: past) = some tally) :
    seen (action :: past) = .showing (lines past) (counterLine tally) := by
  rw [seen, lines, silent, lastLine, drawn, shows, Option.toList_none, List.append_nil]
  rfl

/-- A counter that is gone leaves an empty last line. -/
theorem seen_of_gone (silent : lineOf? past action = none) (gone : tally? (action :: past) = none) :
    seen (action :: past) = .showing (lines past) [] := by
  rw [seen, lines, silent, lastLine_of_none gone, Option.toList_none, List.append_nil]

/-- A message with details is shown above the counter. -/
theorem feed_detail (plain : topic.IsPlain) (plain' : words.IsPlain) :
    (seen past).feed ((after past).write (.detail topic words)).1 =
      seen (.detail topic words :: past) := by
  by_cases verbose : isVerbose past = true
  · have completes : lineOf? past (.detail topic words) = some (messageLine topic words) :=
      if_pos verbose
    rw [seen_of_line completes, ← feed_messageText plain plain']
    simp only [write, after, verbose, if_true]
  · have silent : lineOf? past (.detail topic words) = none := if_neg verbose
    have last : lastLine (.detail topic words :: past) = lastLine past := by
      simp only [lastLine, isDrawn, silent, tally?, Option.isNone_none, Bool.true_and]
    rw [seen_of_kept silent last]
    simp only [write, after, verbose, Bool.false_eq_true, if_false]
    rfl

/-- A counter that is started is shown. -/
theorem feed_start {name : Text} (plain : name.IsPlain) (total : Nat) :
    (seen past).feed ((after past).write (.start name total)).1 = seen (.start name total :: past) := by
  have counter : Tally.counter ⟨name, total, 0⟩ = ⟨name, total, 0⟩ := by
    simp only [Tally.counter, Nat.zero_min]
  have plainName : Text.IsPlain (Tally.mk name total 0).name := plain
  have shows : tally? (.start name total :: past) = some ⟨name, total, 0⟩ := rfl
  rw [seen_of_drawn rfl rfl shows, ← feed_draw plainName, counter]
  rfl

/-- A counter that advances is shown anew. -/
theorem feed_advance (plain : ∀ other ∈ past, other.IsPlain) :
    (seen past).feed ((after past).write .advance).1 = seen (.advance :: past) := by
  cases live : tally? past with
  | none =>
    have gone : tally? (.advance :: past) = none := by rw [tally?, live, Option.map_none]
    rw [seen_of_gone rfl gone, seen, lastLine_of_none live]
    simp only [write, after, live, Option.map_none]
    rfl
  | some tally =>
    have shows : tally? (.advance :: past) = some { tally with count := tally.count + 1 } := by
      rw [tally?, live, Option.map_some]
    have name : tally.name.IsPlain := isPlain_of_tally? plain live
    have plainName : Text.IsPlain (Tally.name { tally with count := tally.count + 1 }) := name
    rw [seen_of_drawn rfl rfl shows, ← feed_draw plainName, ← Tally.advance_counter]
    simp only [write, after, live, Option.map_some]
    rfl

/-- A counter that finishes leaves its last line. -/
theorem feed_finish (plain : ∀ other ∈ past, other.IsPlain) :
    (seen past).feed ((after past).write .finish).1 = seen (.finish :: past) := by
  cases live : tally? past with
  | none =>
    have silent : lineOf? past .finish = none := by rw [lineOf?, live, Option.map_none]
    rw [seen_of_gone silent rfl, seen, lastLine_of_none live]
    simp only [write, after, live, Option.map_none]
    rfl
  | some tally =>
    have completes : lineOf? past .finish = some (counterLine tally) := by
      rw [lineOf?, live, Option.map_some]
    rw [seen_of_line completes, ← Terminal.feed_newLine, ← feed_draw (isPlain_of_tally? plain live),
      ← Terminal.feed_append]
    simp only [write, after, live, Option.map_some]
    rfl

/-- A counter that is dropped leaves its last line. -/
theorem feed_drop : (seen past).feed ((after past).write .drop).1 = seen (.drop :: past) := by
  rw [seen_of_gone rfl rfl]
  cases live : tally? past with
  | none =>
    simp only [write, after, live, Option.map_none, Option.isSome_none, Bool.false_eq_true,
      if_false]
    rw [seen, lastLine_of_none live]
    rfl
  | some tally =>
    simp only [write, after, live, Option.map_some, Option.isSome_some, if_true]
    exact Terminal.feed_clearLine

/-- **One action.** What it prints turns what was seen before it into what is seen after it. -/
theorem feed_write (plain : ∀ other ∈ action :: past, other.IsPlain) :
    (seen past).feed ((after past).write action).1 = seen (action :: past) := by
  obtain ⟨first, others⟩ := List.forall_mem_cons.mp plain
  cases action with
  | message topic words => exact (feed_messageText first.1 first.2).trans (seen_of_line rfl).symm
  | detail topic words => exact feed_detail first.1 first.2
  | setVerbose on =>
    have kept : seen (.setVerbose on :: past) = seen past := seen_of_kept rfl rfl
    exact kept.symm
  | start name total => exact feed_start first total
  | advance => exact feed_advance others
  | finish => exact feed_finish others
  | drop => exact feed_drop

/-! ### Any actions -/

/-- Step by step the terminal shows what was written. -/
theorem feed_writeAll_after (plain : ∀ action ∈ actions, action.IsPlain)
    (earlier : ∀ action ∈ past, action.IsPlain) :
    (seen past).feed ((after past).writeAll actions).1 = seen (actions.reverse ++ past) := by
  induction actions generalizing past with
  | nil => rfl
  | cons action actions ih =>
    obtain ⟨first, others⟩ := List.forall_mem_cons.mp plain
    have known : ∀ other ∈ action :: past, other.IsPlain :=
      List.forall_mem_cons.mpr ⟨first, earlier⟩
    rw [writeAll, Terminal.feed_append, feed_write known, write_after, ih others known,
      List.reverse_cons, List.append_assoc, List.singleton_append]

/-- **No message is lost around the counter.** On an empty terminal, what any actions print comes to
this: the complete lines are those of the messages, of the details that were printed and of the
counters that were finished, in order, and the last line is the counter if it was drawn since then,
and else empty. -/
theorem feed_writeAll (plain : ∀ action ∈ actions, action.IsPlain) :
    (Terminal.showing [] []).feed ((Console.mk false none).writeAll actions).1 =
      .showing (lines actions.reverse) (lastLine actions.reverse) := by
  have nothing : ∀ action ∈ ([] : List Action), action.IsPlain := fun _ member => by cases member
  have all := feed_writeAll_after plain nothing
  rwa [List.append_nil] at all

/-- A run in which a counter is overtaken by messages, finished, and another one taken away. -/
def busy : List Action :=
  [.message "generate".toList "looking".toList, .start "icons".toList 2,
    .message "warning".toList "7 is odd".toList, .detail "generate".toList "skip".toList, .advance,
    .setVerbose true, .detail "generate".toList "skip".toList, .advance, .advance, .finish,
    .start "icons".toList 3, .drop, .message "Error".toList "gone".toList,
    .start "icons".toList 1, .advance]

/-- What is seen of that run. -/
theorem feed_busy :
    (Terminal.showing [] []).feed ((Console.mk false none).writeAll busy).1 =
      .showing
        (["[generate] looking", "[warning] 7 is odd", "[generate] skip", "[generate] icons(2/2)",
          "[Error] gone"].map String.toList)
        "[generate] icons(1/1)".toList :=
  (feed_writeAll (by decide)).trans (by decide +kernel)

end Console

end IconComponents
