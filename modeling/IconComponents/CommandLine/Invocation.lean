/-
**What a command line asks for.**

A command line names a command, with the options of the program before it or behind it. What is
given behind the command counts before what is given in front of it.

* `Invocation` — a command with its settings;
* `Invocation.parse` — the invocation that a list of arguments spells.
-/

import IconComponents.CommandLine.Reading
import IconComponents.Config.Load

namespace IconComponents.CommandLine

/-- When output is coloured; by itself (`auto`), when it goes to a terminal. -/
inductive Coloring where
  | auto
  | always
  | never
  deriving Repr, DecidableEq

/-- What to do: generate components, or make a project in a directory. -/
inductive Command where
  | generate (overrides : Overrides)
  | init (directory? : Option Text)
  deriving Repr, DecidableEq

/-- A command with what the whole program is given: when its output is coloured, and the name of the
configuration file. -/
structure Invocation where
  coloring : Coloring
  configName : Text
  command : Command
  deriving Repr, DecidableEq

/-! ### Behind a command -/

/-- Read the arguments behind a command. A plain argument is the directory of a new project, unless
there is one already. `plain` says that two hyphens were met, `isPlaced` that there is a
directory. -/
def readCommand (stage : Stage) (plain isPlaced : Bool) :
    Reading → List Text → Except UsageError Reading
  | reading, [] => reading.settle
  | reading, argument :: arguments =>
    if !plain && argument = "--".toList then readCommand stage true isPlaced reading arguments
    else
      match if plain then none else reading.argument? stage argument with
      | some (.ok next) => readCommand stage plain isPlaced next arguments
      | some (.error error) => .error error
      | none =>
        if stage = .init && !isPlaced then
          match reading.await .directory (some argument) with
          | .ok next => readCommand stage plain true next arguments
          | .error error => .error error
        else .error (.unknownArgument argument)

/-! ### Before the command -/

/-- What a request for help on commands leads to: each command has help, and none has commands of
its own. -/
def helpOn : List Text → UsageError
  | [] => .help
  | name :: others =>
    if (Stage.ofCommand? name).isNone && name != "help".toList then .unknownCommand name
    else
      match others with
      | [] => .help
      | other :: _ => .unknownCommand other

/-- A plain argument that is no command at the place where it stands. -/
def strayArgument (plain : Bool) (argument : Text) : UsageError :=
  if plain && ((Stage.ofCommand? argument).isSome || argument = "help".toList) then
    .unknownArgument argument
  else .unknownCommand argument

/-- Read the arguments up to the command, and then those behind it: what was given before the
command, the command, and what was given behind it. -/
def readProgram (plain : Bool) :
    Reading → List Text → Except UsageError (Reading × Stage × Reading)
  | reading, [] =>
    match reading.settle with
    | .error error => .error error
    | .ok settled => .error (if settled.given.isEmpty then .nothing else .noCommand)
  | reading, argument :: arguments =>
    if plain then .error (strayArgument plain argument)
    else if argument = "--".toList then readProgram true reading arguments
    else if !reading.isWaiting && argument = "help".toList then .error (helpOn arguments)
    else
      match if reading.isWaiting then none else Stage.ofCommand? argument with
      | some stage => do
        let behind ← readCommand stage false false .start arguments
        let before ← reading.settle
        return (before, stage, behind)
      | none =>
        match reading.argument? .program argument with
        | some (.ok next) => readProgram plain next arguments
        | some (.error error) => .error error
        | none => .error (strayArgument plain argument)

/-! ### The whole command line -/

/-- The name that the configuration file has, unless another one is given. -/
def defaultConfigName : Text := "icongen.toml".toList

/-- The colouring of a name. -/
def Coloring.ofName (name : Text) : Coloring :=
  if name = "always".toList then .always else if name = "never".toList then .never else .auto

/-- The overrides that were given. -/
def overridesOf (given : List (Parameter × Text)) : Overrides where
  entry := given.lookup .entry
  output := given.lookup .output
  rewrite := (given.lookup .rewrite).map (· == "true".toList)
  leading := given.lookup .leading
  trailing := given.lookup .trailing
  extension := given.lookup .extension
  template := given.lookup .template
  verbose := (given.lookup .verbose).isSome

/-- The invocation that a list of arguments spells. -/
def Invocation.parse (arguments : List Text) : Except UsageError Invocation := do
  let (before, stage, behind) ← readProgram false .start arguments
  let value? := fun parameter => (behind.given.lookup parameter).or (before.given.lookup parameter)
  return {
    coloring := ((value? .color).map Coloring.ofName).getD .auto
    configName := (value? .config).getD defaultConfigName
    command := match stage with
      | .init => .init (behind.given.lookup .directory)
      | _ => .generate (overridesOf behind.given) }

end IconComponents.CommandLine
