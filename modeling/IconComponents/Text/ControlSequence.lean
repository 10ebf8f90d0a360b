/-
**Text without control sequences.**

A text that is shown to a reader who is not at a terminal is shown without the sequences that steer
one. Such a sequence starts with the escape character; what it is made of and where it ends depends
on the character behind. Other control characters are left out as well, white space apart.

* `ControlState` — where in a sequence a text is;
* `ControlState.next` — the state behind a character, and whether the character is shown;
* `Text.withoutControls` — the characters that are shown.
-/

import IconComponents.Text.Basic

namespace IconComponents

/-- Where in a control sequence a text is: in none, behind the escape character, behind the first
characters of a short sequence, in one with parameters, in a title, which the bell ends, or in a
string for a device. -/
inductive ControlState where
  | outside
  | escape
  | short
  | parameters
  | title
  | string
  deriving Repr, DecidableEq

namespace ControlState

/-- The byte that ends a string for a device. -/
def stringEnd : Nat := 0x9C

/-- Whether the byte that ends a string is one of the bytes of a character. -/
def holdsStringEnd (c : Char) : Bool := (String.utf8EncodeChar c).any (·.toNat == stringEnd)

/-- The white space that breaks off a sequence: the tab and the ends of lines and pages. -/
def isBreak (c : Char) : Bool := c = '\t' || c = '\n' || c = '\x0c' || c = '\r'

/-- The state behind the character that follows the escape character. -/
def ofIntroducer (c : Char) : ControlState :=
  if c.toNat < 0x20 || 0x7F ≤ c.toNat then escape
  else if c.toNat < 0x30 then short
  else if c = '[' then parameters
  else if c = ']' then title
  else if c = 'P' || c = 'X' || c = '^' || c = '_' then string
  else outside

/-- The state behind a character, and whether the character is shown. White space breaks off a
sequence other than a title or a string; the escape character and two other control characters
break off any. -/
def next (state : ControlState) (c : Char) : ControlState × Bool :=
  if c = '\x1b' then (escape, false)
  else if c = '\x18' || c = '\x1a' then (outside, false)
  else
    match state with
    | outside => (outside, isBreak c || (0x20 ≤ c.toNat && c.toNat != 0x7F))
    | escape => if isBreak c then (outside, true) else (ofIntroducer c, false)
    | short =>
      if isBreak c then (outside, true)
      else (if 0x30 ≤ c.toNat && c.toNat < 0x7F then outside else short, false)
    | parameters =>
      if isBreak c then (outside, true)
      else (if 0x40 ≤ c.toNat && c.toNat < 0x7F then outside else parameters, false)
    | title => (if c = '\x07' then outside else title, false)
    | string => (if holdsStringEnd c then outside else string, false)

/-- The characters of a text that are shown, from a state on. -/
def shown : ControlState → Text → Text
  | _, [] => []
  | state, c :: text =>
    let (state, isShown) := state.next c
    if isShown then c :: shown state text else shown state text

end ControlState

/-- The characters of a text that are shown. -/
def Text.withoutControls (text : Text) : Text := ControlState.outside.shown text

end IconComponents
