/-
**Messages on a terminal.**

The program prints messages, and while it works through icons it keeps one line with a counter.
Each message starts with the topic it belongs to, in bold and in a colour of its own. A message that
comes while the counter is shown takes the counter's line; the next change of the counter draws it
again below.

* `Console.Action` — what can happen on the console;
* `Console.write` — what an action prints, and the console after it;
* `Console.writeAll` — the same for a list of actions.
-/

import IconComponents.Text.Basic

namespace IconComponents

/-- A counter that is shown on the last line: what is counted, how far, and how far it is. -/
structure Counter where
  name : Text
  total : Nat
  current : Nat
  deriving Repr, DecidableEq

/-- A counter that is one further, but not beyond its total. -/
def Counter.advance (counter : Counter) : Counter :=
  { counter with current := min (counter.current + 1) counter.total }

/-- The counter as it is shown. -/
def Counter.text (counter : Counter) : Text :=
  counter.name ++ ['('] ++ Text.ofNat counter.current ++ ['/'] ++ Text.ofNat counter.total ++ [')']

/-- What is remembered of what was printed: whether details are printed, and the counter that is
shown. -/
structure Console where
  verbose : Bool
  counter : Option Counter
  deriving Repr, DecidableEq

namespace Console

/-- What can happen on the console: a message of a topic is printed, or only if details are, which
`setVerbose` says; a counter is shown, in place of one that is already there, counts one further, is
left where it is (`finish`), or is taken away (`drop`). -/
inductive Action where
  | message (topic words : Text)
  | detail (topic words : Text)
  | setVerbose (on : Bool)
  | start (name : Text) (total : Nat)
  | advance
  | finish
  | drop
  deriving Repr, DecidableEq

/-! ### Control sequences -/

/-- A control sequence with a given body. -/
def control (body : String) : Text := '\x1b' :: '[' :: body.toList

/-- Go to the start of the line and clear it. -/
def clearLine : Text := control "1G" ++ control "2K"

/-- Clear the rest of the line. -/
def clearRest : Text := control "K"

/-- The colour of a topic. -/
def colorOf (topic : Text) : Text :=
  let name := Text.lower topic
  if name = "generate".toList then control "94m"
  else if name = "init".toList then control "92m"
  else if name = "error".toList then control "91m"
  else control "93m"

/-- A topic at the start of a line. -/
def heading (topic : Text) : Text :=
  control "1m" ++ colorOf topic ++ ['['] ++ topic ++ [']'] ++ control "39m" ++ control "0m"

/-- The counter drawn on its line. -/
def draw (counter : Counter) : Text :=
  clearLine ++ heading "generate".toList ++ [' '] ++ counter.text

/-- A message, on the counter's line if there is one. -/
def messageText (console : Console) (topic words : Text) : Text :=
  (if console.counter.isSome then clearLine else clearRest) ++ heading topic ++ [' '] ++ words ++
    ['\n']

/-! ### Actions -/

/-- What an action prints, and the console after it. -/
def write (console : Console) : Action → Text × Console
  | .message topic words => (console.messageText topic words, console)
  | .detail topic words =>
    (if console.verbose then console.messageText topic words else [], console)
  | .setVerbose on => ([], { console with verbose := on })
  | .start name total =>
    let counter : Counter := ⟨name, total, 0⟩
    (draw counter, { console with counter := some counter })
  | .advance =>
    match console.counter with
    | none => ([], console)
    | some counter => (draw counter.advance, { console with counter := some counter.advance })
  | .finish =>
    match console.counter with
    | none => ([], console)
    | some counter => (draw counter ++ ['\n'], { console with counter := none })
  | .drop =>
    (if console.counter.isSome then clearLine else [], { console with counter := none })

/-- What a list of actions prints, and the console after it. -/
def writeAll (console : Console) : List Action → Text × Console
  | [] => ([], console)
  | action :: actions =>
    let (first, console) := console.write action
    let (others, console) := console.writeAll actions
    (first ++ others, console)

end Console

end IconComponents
