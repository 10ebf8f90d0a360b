/-
**Reading arguments.**

Arguments are read from left to right. An option that stands by itself waits for its value; it is
settled, that is checked and kept, only when the next option or the end is met. A value that is
attached to its option settles at once. Behind two hyphens no argument is an option any more.

* `Reading` — what was given so far, and the option that is not settled;
* `Reading.settle` — the reading with that option checked and kept;
* `Reading.long`, `Reading.short` — one argument that starts with hyphens.
-/

import IconComponents.CommandLine.Error

namespace IconComponents.CommandLine

/-- What was read so far: what was given, with its values, and what is not settled yet, with its
value if it has one. -/
structure Reading where
  given : List (Parameter × Text)
  pending : Option (Parameter × Option Text)
  deriving Repr, DecidableEq

namespace Reading

/-- Nothing read. -/
def start : Reading := ⟨[], none⟩

/-- Whether an option waits for its value. -/
def isWaiting (reading : Reading) : Bool :=
  match reading.pending with
  | some (_, none) => true
  | _ => false

/-- Keep a parameter with its value. It has to have one, it must not be there already, and it has to
accept the value. -/
def keep (given : List (Parameter × Text)) (parameter : Parameter) (value? : Option Text) :
    Except UsageError Reading :=
  match value?.or parameter.impliedValue? with
  | none => .error (.missingValue parameter)
  | some value =>
    if given.any fun (other, _) => other = parameter then .error (.repeated parameter)
    else if parameter.accepts value then .ok ⟨given ++ [(parameter, value)], none⟩
    else if value.isEmpty then .error (.missingValue parameter)
    else .error (.invalidValue parameter value)

/-- The reading without anything pending. -/
def settle (reading : Reading) : Except UsageError Reading :=
  match reading.pending with
  | none => .ok reading
  | some (parameter, value?) => keep reading.given parameter value?

/-- Give something at once, after settling what is pending. -/
def give (reading : Reading) (parameter : Parameter) (value? : Option Text) :
    Except UsageError Reading := do
  let settled ← reading.settle
  match parameter with
  | .help => .error .help
  | .version => .error .version
  | _ => keep settled.given parameter value?

/-- Leave something pending, after settling what was pending. -/
def await (reading : Reading) (parameter : Parameter) (value? : Option Text) :
    Except UsageError Reading :=
  reading.settle.map fun settled => { settled with pending := some (parameter, value?) }

/-- Read an option by its long name, with the value behind an equals sign if there is one. -/
def long (stage : Stage) (reading : Reading) (name : Text) (value? : Option Text) :
    Except UsageError Reading :=
  match stage.named? name, value? with
  | none, _ => .error (.unknownArgument ("--".toList ++ name))
  | some parameter, none =>
    if parameter.takesValue then reading.await parameter none else reading.give parameter none
  | some parameter, some value =>
    if parameter.takesValue then reading.give parameter (some value)
    else .error (.unneededValue parameter value)

/-- Read options by their short names. The first one that takes a value takes what is left, without
an equals sign at its start. -/
def short (stage : Stage) : Reading → Text → Except UsageError Reading
  | reading, [] => .ok reading
  | reading, letter :: rest =>
    match stage.lettered? letter with
    | none => .error (.unknownArgument ['-', letter])
    | some parameter =>
      if parameter.takesValue then
        match rest with
        | [] => reading.await parameter none
        | '=' :: value => reading.give parameter (some value)
        | value => reading.give parameter (some value)
      else
        match reading.give parameter none with
        | .ok next => short stage next rest
        | .error error => .error error

/-- The name of a long option and the value behind an equals sign, if there is one. -/
def splitLong (text : Text) : Text × Option Text :=
  match text.dropWhile (· != '=') with
  | [] => (text, none)
  | _ :: value => (text.takeWhile (· != '='), some value)

/-- Read an argument that may start with hyphens; none if it is neither an option nor the value that
one waits for. -/
def argument? (stage : Stage) (reading : Reading) (argument : Text) :
    Option (Except UsageError Reading) :=
  match argument with
  | '-' :: '-' :: text =>
    let (name, value?) := splitLong text
    some (reading.long stage name value?)
  | '-' :: letter :: letters => some (reading.short stage (letter :: letters))
  | argument =>
    match reading.pending with
    | some (parameter, none) =>
      some (.ok { reading with pending := some (parameter, some argument) })
    | _ => none

end Reading

end IconComponents.CommandLine
