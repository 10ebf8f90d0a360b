/-
**Places in a text.**

Messages name a place by its line and its column, both counted from one. A line ends with a line
feed; columns count characters.
-/

import IconComponents.Text.Basic

namespace IconComponents

/-- A place in a text: the line, and the column in characters. -/
structure Position where
  line : Nat
  column : Nat
  deriving Repr, DecidableEq

namespace Position

/-- The place where a text starts. -/
def start : Position := ⟨1, 1⟩

/-- The place behind a text that starts at a given place. -/
def after (position : Position) : Text → Position
  | [] => position
  | c :: text =>
    if c = '\n' then after ⟨position.line + 1, 1⟩ text
    else after ⟨position.line, position.column + 1⟩ text

/-- The place in a text before its last `remaining` characters. -/
def before (source : Text) (remaining : Nat) : Position :=
  start.after (source.take (source.length - remaining))

end Position

end IconComponents
