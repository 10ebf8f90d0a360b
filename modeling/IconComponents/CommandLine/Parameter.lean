/-
**What a command line can give.**

The program has two commands, and each knows its own options; two options can stand before the
command as well as after it. An option has a long name, and most have a short one of one letter.

* `Stage` — before the command, or after one of the two commands;
* `Parameter` — the options, and the directory that stands for itself;
* `Stage.parameters` — which options are known at a stage;
* `Parameter.accepts` — which values an option can have.
-/

import IconComponents.Text.Basic

namespace IconComponents.CommandLine

/-- The part of the command line that is read: the one before the command (`program`), or the one
behind the command that generates components or makes a project. -/
inductive Stage where
  | program
  | generate
  | init
  deriving Repr, DecidableEq

/-- Something that a command line can give. The names of components start with `leading` and end in
`trailing`, and the names of their files end in `extension`; `directory` is the one of a new
project. -/
inductive Parameter where
  | color
  | config
  | entry
  | output
  | rewrite
  | leading
  | trailing
  | extension
  | template
  | verbose
  | directory
  | help
  | version
  deriving Repr, DecidableEq

/-- The options that are known at a stage. -/
def Stage.parameters : Stage → List Parameter
  | program => [.color, .config, .help, .version]
  | generate =>
    [.entry, .output, .rewrite, .leading, .trailing, .extension, .template, .verbose, .color,
      .config, .help]
  | init => [.color, .config, .help]

namespace Parameter

/-- The long name, or what stands for it in messages. -/
def name : Parameter → String
  | color => "color"
  | config => "config"
  | entry => "entry"
  | output => "output"
  | rewrite => "rewrite"
  | leading => "prefix"
  | trailing => "postfix"
  | extension => "extension"
  | template => "template"
  | verbose => "verbose"
  | directory => "DIR"
  | help => "help"
  | version => "version"

/-- The short name. -/
def letter? : Parameter → Option Char
  | color => none
  | config => some 'C'
  | entry => some 'e'
  | output => some 'o'
  | rewrite => some 'r'
  | leading => some 'p'
  | trailing => some 'P'
  | extension => some 'x'
  | template => some 't'
  | verbose => some 'V'
  | directory => none
  | help => some 'h'
  | version => some 'V'

/-- Whether a value belongs to it. -/
def takesValue : Parameter → Bool
  | verbose | help | version => false
  | _ => true

/-- The value that it has when it is given without one, if it can be. -/
def impliedValue? : Parameter → Option Text
  | rewrite | verbose | help | version => some "true".toList
  | _ => none

/-- Whether it can have a value. -/
def accepts (parameter : Parameter) (value : Text) : Bool :=
  match parameter with
  | color => ["auto".toList, "always".toList, "never".toList].contains value
  | rewrite => value == "true".toList || value == "false".toList
  | config | output | template | directory => !value.isEmpty
  | _ => true

/-- How it is written in messages. -/
def label (parameter : Parameter) : Text :=
  let long := "--".toList ++ parameter.name.toList
  let value := '<' :: parameter.name.toList.map Char.toUpper ++ ['>']
  match parameter with
  | directory => '[' :: parameter.name.toList ++ [']']
  | rewrite => long ++ " [".toList ++ value ++ [']']
  | _ => if parameter.takesValue then long ++ ' ' :: value else long

end Parameter

/-- The option with a long name. -/
def Stage.named? (stage : Stage) (name : Text) : Option Parameter :=
  stage.parameters.find? fun parameter => parameter.name.toList = name

/-- The option with a short name. -/
def Stage.lettered? (stage : Stage) (letter : Char) : Option Parameter :=
  stage.parameters.find? fun parameter => parameter.letter? = some letter

/-- The stage behind a command; each command has a short name. -/
def Stage.ofCommand? (name : Text) : Option Stage :=
  if name = "generate".toList || name = ['g'] then some .generate
  else if name = "init".toList || name = ['i'] then some .init
  else none

end IconComponents.CommandLine
