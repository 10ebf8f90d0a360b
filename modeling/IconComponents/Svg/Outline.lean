/-
**Outlines.**

A shape is drawn by a pen that moves to a point, draws lines and curves from there, and closes what
it drew. The commands of a path can be relative to where the pen is and leave out what can be
inferred; an outline has absolute steps only.

* `Command`, `commands` — the commands of a path as they are written, up to the first error;
* `Cursor.run` — the absolute steps of commands, in double precision;
* `Pen` — an outline while it is drawn, in single precision;
* `Outline.ofPath?`, `Outline.ofPoints?`, `Outline.ofRectangle?`, `Outline.ofLine?` — the outlines
  of shapes.
-/

import IconComponents.Svg.Box
import IconComponents.Svg.Number

namespace IconComponents.Svg

/-- A step of the pen: to a point without drawing, in a straight line or in a curve with one or two
control points, or back to where the drawing started. -/
inductive PenStep (format : Format) where
  | move (target : Point format)
  | line (target : Point format)
  | quadratic (control target : Point format)
  | cubic (first second target : Point format)
  | close
  deriving Repr, DecidableEq

namespace PenStep

variable {format : Format}

/-- The points of a step. -/
def points : PenStep format → List (Point format)
  | move target => [target]
  | line target => [target]
  | quadratic control target => [control, target]
  | cubic first second target => [first, second, target]
  | close => []

/-- The step in single precision. -/
def toSingle : PenStep format → PenStep Format.single
  | move target => .move target.toSingle
  | line target => .line target.toSingle
  | quadratic control target => .quadratic control.toSingle target.toSingle
  | cubic first second target => .cubic first.toSingle second.toSingle target.toSingle
  | close => .close

end PenStep

/-! ### Commands -/

/-- What a command of a path draws: nothing, when the pen moves, a straight line, one to the side
(`across`) or up or down (`along`), a curve with two control points or one, the first of which is
inferred in a smooth curve, or a line back to where the drawing started. -/
inductive CommandKind where
  | move
  | line
  | across
  | along
  | cubic
  | smoothCubic
  | quadratic
  | smoothQuadratic
  | close
  deriving Repr, DecidableEq

namespace CommandKind

/-- The letters of commands; a capital one says that coordinates are absolute. -/
def letters : List (Char × CommandKind) :=
  [('m', .move), ('l', .line), ('h', .across), ('v', .along), ('c', .cubic), ('s', .smoothCubic),
    ('q', .quadratic), ('t', .smoothQuadratic), ('z', .close)]

/-- What the command of a letter draws. -/
def ofLetter? (letter : Char) : Option CommandKind := letters.lookup letter.toLower

/-- How many numbers a command takes. -/
def count : CommandKind → Nat
  | move | line | smoothQuadratic => 2
  | across | along => 1
  | cubic => 6
  | smoothCubic | quadratic => 4
  | close => 0

/-- What numbers without a letter draw behind a command. -/
def next? : CommandKind → Option CommandKind
  | move => some .line
  | close => none
  | kind => some kind

/-- Numbers without a letter are at least one number. -/
theorem count_pos_of_next? {kind other : CommandKind} (found : kind.next? = some other) :
    0 < other.count := by
  cases kind <;> simp_all [next?] <;> subst found <;> decide

end CommandKind

/-- A command of a path with its numbers, and whether its coordinates start from where the pen
is. -/
structure Command where
  kind : CommandKind
  relative : Bool
  numbers : List Double
  deriving Repr, DecidableEq

/-- A given count of numbers, and the text behind them. -/
def numbers? : Nat → Text → Option (List Double × Text)
  | 0, text => some ([], text)
  | count + 1, text =>
    (listNumber? text).bind fun (value, rest) =>
      (numbers? count rest).map fun (values, rest) => (value :: values, rest)

/-- Numbers are read from the front, each from at least one character. -/
theorem length_add_le_of_numbers? {count : Nat} {text rest : Text} {values : List Double}
    (found : numbers? count text = some (values, rest)) : rest.length + count ≤ text.length := by
  induction count generalizing text values with
  | zero =>
    obtain ⟨-, rfl⟩ := Prod.mk.inj (Option.some.inj found)
    exact Nat.le_refl _
  | succ count hypothesis =>
    obtain ⟨⟨_, behind⟩, first, others⟩ := Option.bind_eq_some_iff.mp found
    obtain ⟨⟨_, _⟩, read, same⟩ := Option.map_eq_some_iff.mp others
    obtain ⟨-, rfl⟩ := Prod.mk.inj same
    have := hypothesis read
    have := length_lt_of_listNumber? first
    omega

/-- Whether a number can start with a character. -/
def startsNumber (c : Char) : Bool := c.isDigit || c = '.' || c = '+' || c = '-'

/-- What the next command draws, whether it is relative, and the text with its numbers; without a
letter the last command goes on. A path starts with a move. -/
def nextCommand? (last : Option (CommandKind × Bool)) (text : Text) :
    Option (CommandKind × Bool × Text) :=
  match text with
  | [] => none
  | c :: rest =>
    match CommandKind.ofLetter? c with
    | some kind => if last.isNone && kind != .move then none else some (kind, c.isLower, rest)
    | none =>
      if startsNumber c then
        last.bind fun (kind, relative) => kind.next?.map fun kind => (kind, relative, text)
      else none

/-- A command is read from the front: its letter, or at least one number. -/
theorem length_lt_add_of_nextCommand? {last : Option (CommandKind × Bool)} {text inner : Text}
    {kind : CommandKind} {relative : Bool}
    (found : nextCommand? last text = some (kind, relative, inner)) :
    inner.length < text.length + kind.count := by
  unfold nextCommand? at found
  split at found
  · exact absurd found (by simp)
  · next c rest =>
    split at found
    · split at found
      · exact absurd found (by simp)
      · obtain ⟨-, -, rfl⟩ := by simpa using found
        simp only [List.length_cons]
        omega
    · split at found
      · obtain ⟨⟨_, _⟩, -, others⟩ := Option.bind_eq_some_iff.mp found
        obtain ⟨_, next, same⟩ := Option.map_eq_some_iff.mp others
        obtain ⟨rfl, -, rfl⟩ := by simpa using same
        exact Nat.lt_add_of_pos_right (CommandKind.count_pos_of_next? next)
      · exact absurd found (by simp)

/-- The commands of a path up to the first error. -/
def commands (last : Option (CommandKind × Bool)) (text : Text) : List Command :=
  match next : nextCommand? last (Text.skipSpace text) with
  | none => []
  | some (kind, relative, inner) =>
    match numbers : numbers? kind.count inner with
    | none => []
    | some (values, rest) =>
      have : rest.length < text.length := by
        have := Text.length_skipSpace_le text
        have := length_lt_add_of_nextCommand? next
        have := length_add_le_of_numbers? numbers
        omega
      ⟨kind, relative, values⟩ :: commands (some (kind, relative)) rest
termination_by text.length

/-! ### Absolute steps -/

/-- The control point that a smooth curve continues from: the last one of a cubic or of a quadratic
curve, if the last step was one. -/
inductive Tail where
  | straight
  | cubic (control : Point Format.double)
  | quadratic (control : Point Format.double)
  deriving Repr, DecidableEq

/-- Where the pen is while commands are followed, where the drawing started, and what a smooth curve
continues from. -/
structure Cursor where
  place : Point Format.double
  start : Point Format.double
  tail : Tail
  deriving Repr, DecidableEq

namespace Cursor

/-- The absolute step of a command, and where the pen is then. -/
def follow (cursor : Cursor) (command : Command) : Option (PenStep Format.double × Cursor) :=
  let here := cursor.place
  let point := fun (x y : Double) =>
    let p : Point Format.double := ⟨x, y⟩
    if command.relative then p.plus here else p
  let drawTo := fun (target : Point Format.double) (step : PenStep Format.double) (tail : Tail) =>
    some (step, ({ cursor with place := target, tail := tail } : Cursor))
  match command.kind, command.numbers with
  | .move, [x, y] => some (.move (point x y), ⟨point x y, point x y, .straight⟩)
  | .line, [x, y] => drawTo (point x y) (.line (point x y)) .straight
  | .across, [x] =>
    let target : Point Format.double := ⟨if command.relative then x + here.x else x, here.y⟩
    drawTo target (.line target) .straight
  | .along, [y] =>
    let target : Point Format.double := ⟨here.x, if command.relative then y + here.y else y⟩
    drawTo target (.line target) .straight
  | .cubic, [a, b, c, d, x, y] =>
    drawTo (point x y) (.cubic (point a b) (point c d) (point x y)) (.cubic (point c d))
  | .smoothCubic, [c, d, x, y] =>
    let first := match cursor.tail with
      | .cubic control => here.reflect control
      | _ => here
    drawTo (point x y) (.cubic first (point c d) (point x y)) (.cubic (point c d))
  | .quadratic, [a, b, x, y] =>
    drawTo (point x y) (.quadratic (point a b) (point x y)) (.quadratic (point a b))
  | .smoothQuadratic, [x, y] =>
    let control := match cursor.tail with
      | .quadratic control => here.reflect control
      | _ => here
    drawTo (point x y) (.quadratic control (point x y)) (.quadratic control)
  | .close, [] => some (.close, ⟨cursor.start, cursor.start, .straight⟩)
  | _, _ => none

/-- The absolute steps of commands. -/
def run : Cursor → List Command → List (PenStep Format.double)
  | _, [] => []
  | cursor, command :: commands =>
    match cursor.follow command with
    | none => []
    | some (step, cursor) => step :: run cursor commands

end Cursor

/-! ### Drawing -/

/-- An outline: the steps of its pen. -/
abbrev Outline := List (PenStep Format.single)

/-- An outline while it is drawn: the steps so far, the last one first, where the drawing started,
and whether the pen has to move there before it draws on. -/
structure Pen where
  steps : List (PenStep Format.single)
  start : Point Format.single
  lifted : Bool
  deriving Repr, DecidableEq

namespace Pen

/-- A pen that has drawn nothing. -/
def fresh : Pen := ⟨[], .origin, true⟩

/-- Move the pen. Of two moves in a row the second one counts. -/
def moveTo (pen : Pen) (target : Point Format.single) : Pen :=
  match pen.steps with
  | .move _ :: steps => ⟨.move target :: steps, target, pen.lifted⟩
  | steps => ⟨.move target :: steps, target, false⟩

/-- Put the pen down where the drawing started, if it is lifted. -/
def lower (pen : Pen) : Pen := if pen.lifted then pen.moveTo pen.start else pen

/-- Take a step. Closing lifts the pen, and nothing is closed twice. -/
def take (pen : Pen) : PenStep Format.single → Pen
  | .move target => pen.moveTo target
  | .close =>
    match pen.steps with
    | [] => { pen with lifted := true }
    | .close :: _ => { pen with lifted := true }
    | steps => ⟨.close :: steps, pen.start, true⟩
  | step =>
    let pen := pen.lower
    { pen with steps := step :: pen.steps }

end Pen

namespace Outline

/-- The points of an outline, those that curves only bend towards among them. -/
def corners (outline : Outline) : List (Point Format.single) := outline.flatMap PenStep.points

/-- The outline of steps: at least two of them, all points finite, and not too far apart. -/
def ofSteps? (steps : List (PenStep Format.single)) : Option Outline :=
  let outline : Outline := (steps.foldl Pen.take Pen.fresh).steps.reverse
  if 2 ≤ outline.length && outline.corners.all Point.isFinite &&
      (Box.around? outline.corners).isSome then
    some outline
  else none

/-- The outline of a path. -/
def ofPath? (text : Text) : Option Outline :=
  ofSteps? ((Cursor.run ⟨.origin, .origin, .straight⟩ (commands none text)).map PenStep.toSingle)

/-- The points of a list of coordinates up to the first error. -/
def points (text : Text) : List (Point Format.single) :=
  match numbers : numbers? 2 text with
  | some ([x, y], rest) =>
    have : rest.length < text.length :=
      Nat.lt_of_lt_of_le (Nat.lt_add_of_pos_right (by decide)) (length_add_le_of_numbers? numbers)
    ⟨x.convert .single, y.convert .single⟩ :: points rest
  | _ => []
termination_by text.length

/-- The outline through a list of points, closed or not. -/
def ofPoints? (closed : Bool) (text : Text) : Option Outline :=
  match points text with
  | first :: second :: others =>
    ofSteps? (.move first :: (second :: others).map .line ++ if closed then [.close] else [])
  | _ => none

/-- The outline of a rectangle that is not empty. -/
def ofRectangle? (x y width height : Single) : Option Outline :=
  if width.isPositive && width.isFinite && height.isPositive && height.isFinite then
    let right := x + width
    let bottom := y + height
    ofSteps? [.move ⟨x, y⟩, .line ⟨right, y⟩, .line ⟨right, bottom⟩, .line ⟨x, bottom⟩, .close]
  else none

/-- The outline of a line. -/
def ofLine? (start target : Point Format.single) : Option Outline :=
  ofSteps? [.move start, .line target]

end Outline

end IconComponents.Svg
