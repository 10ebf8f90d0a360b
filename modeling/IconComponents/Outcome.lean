/-
**Work on files.**

Work on files prints messages, changes files and ends in a result or an error. What was printed and
changed before an error stays, so an outcome has all three side by side.

* `Outcome` — the messages, the files afterwards, and the result;
* `Outcome.andThen` — one piece of work after another, unless the first one fails.
-/

import IconComponents.Console
import IconComponents.FileSystem

namespace IconComponents

/-- What comes of work on files: what happened on the console, the files afterwards, and a result or
why there is none. -/
structure Outcome (ε α : Type) where
  actions : List Console.Action
  files : FileSystem
  result : Except ε α

namespace Outcome

variable {ε α β : Type}

/-- Work that is done without a message. -/
def done (files : FileSystem) (value : α) : Outcome ε α := ⟨[], files, .ok value⟩

/-- Work that failed without a message. -/
def failed (files : FileSystem) (error : ε) : Outcome ε α := ⟨[], files, .error error⟩

/-- Work with messages before it. -/
def behind (actions : List Console.Action) (outcome : Outcome ε α) : Outcome ε α :=
  { outcome with actions := actions ++ outcome.actions }

/-- Work whose result is turned into another one. -/
def map (f : α → β) (outcome : Outcome ε α) : Outcome ε β :=
  { outcome with result := outcome.result.map f }

/-- One piece of work after another; the second one is not started if the first one fails. -/
def andThen (first : Outcome ε α) (next : FileSystem → α → Outcome ε β) : Outcome ε β :=
  match first.result with
  | .error error => ⟨first.actions, first.files, .error error⟩
  | .ok value => behind first.actions (next first.files value)

/-- Work whose error is turned into another one. -/
def mapError {ε' : Type} (f : ε → ε') (outcome : Outcome ε α) : Outcome ε' α :=
  { outcome with result := outcome.result.mapError f }

/-! ### Results -/

theorem result_map_eq_ok {f : α → β} {outcome : Outcome ε α} {value : β} :
    (outcome.map f).result = .ok value ↔ ∃ before, outcome.result = .ok before ∧ f before = value := by
  rw [map]
  cases outcome.result with
  | error error => simp [Except.map]
  | ok before => simp [Except.map]

theorem andThen_of_error {first : Outcome ε α} {error : ε} (failed : first.result = .error error)
    (next : FileSystem → α → Outcome ε β) :
    first.andThen next = ⟨first.actions, first.files, .error error⟩ := by
  rw [andThen, failed]

theorem andThen_of_ok {first : Outcome ε α} {value : α} (succeeded : first.result = .ok value)
    (next : FileSystem → α → Outcome ε β) :
    first.andThen next = behind first.actions (next first.files value) := by
  rw [andThen, succeeded]

end Outcome

end IconComponents
