/-
**Command lines that lead to no run.**

A command line can ask for help or for the version, or it can be wrong. The first fault that is met
is told.
-/

import IconComponents.CommandLine.Parameter
import IconComponents.Text.ControlSequence

namespace IconComponents.CommandLine

/-- Why a command line leads to no run: it asks for `help` or the `version`, it is empty (`nothing`)
or has no command, an argument or a command is not known, a value is missing, cannot be had
(`invalidValue`) or stands where none belongs (`unneededValue`), or something is given twice. -/
inductive UsageError where
  | help
  | version
  | nothing
  | noCommand
  | unknownArgument (argument : Text)
  | unknownCommand (argument : Text)
  | missingValue (parameter : Parameter)
  | invalidValue (parameter : Parameter) (value : Text)
  | unneededValue (parameter : Parameter) (value : Text)
  | repeated (parameter : Parameter)
  deriving Repr, DecidableEq

namespace UsageError

/-- A text in single quotes, without control sequences. -/
def quoted (words : Text) : Text := '\'' :: Text.withoutControls words ++ ['\'']

/-- What is wrong, in words; nothing is wrong with a request for help or for the version. -/
def fault? : UsageError → Option Text
  | help | version | nothing => none
  | noCommand => some "'icongen' requires a subcommand but one was not provided".toList
  | unknownArgument argument =>
    some ("unexpected argument ".toList ++ quoted argument ++ " found".toList)
  | unknownCommand argument => some ("unrecognized subcommand ".toList ++ quoted argument)
  | missingValue parameter =>
    some ("a value is required for ".toList ++ quoted parameter.label ++
      " but none was supplied".toList)
  | invalidValue parameter value =>
    some ("invalid value ".toList ++ quoted value ++ " for ".toList ++ quoted parameter.label)
  | unneededValue parameter value =>
    some ("unexpected value ".toList ++ quoted value ++ " for ".toList ++ quoted parameter.label ++
      " found; no more were expected".toList)
  | repeated parameter =>
    some ("the argument ".toList ++ quoted parameter.label ++
      " cannot be used multiple times".toList)

end UsageError

end IconComponents.CommandLine
