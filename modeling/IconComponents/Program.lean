/-
**The program as a whole.**

Given its arguments, the files and the home directory, the program prints messages, changes files
and ends with an exit code: zero if all went well, one if the work failed, two if the command line
is wrong.

* `CommandLine.Invocation.perform` — the work of an invocation;
* `Program.run` — the program for a list of arguments.
-/

import IconComponents.CommandLine.Help
import IconComponents.CommandLine.Invocation
import IconComponents.Generation.Run
import IconComponents.Project.Starter

namespace IconComponents

/-- Why the work failed: there is no configuration, generation stopped, or a project could not be
made. -/
inductive ProgramError where
  | config (cause : ConfigError)
  | generation (cause : GenerationError)
  | project (cause : ProjectError)
  deriving Repr, DecidableEq

/-- The error in words. -/
def ProgramError.message : ProgramError → Text
  | config cause => cause.message
  | generation cause => cause.message
  | project cause => cause.message

/-- The work of an invocation. -/
def CommandLine.Invocation.perform (invocation : Invocation) (files : FileSystem)
    (home? : Option Text) : Outcome ProgramError Unit :=
  match invocation.command with
  | .generate overrides =>
    ((Config.load files home? invocation.configName overrides).mapError .config).andThen
      fun files config =>
        ((IconComponents.generate config files).mapError .generation).map fun _ => ()
  | .init directory? => (createProject files (directory?.getD ['.'])).mapError .project

/-- What the program leaves behind: its exit code, what it printed as output and as an error, and
the files. -/
structure Report where
  code : Nat
  printed : Text
  complaint : Text
  files : FileSystem
  deriving Repr, DecidableEq

namespace Program

/-- The report on a command line that leads to no run. -/
def refuse (files : FileSystem) (error : CommandLine.UsageError) : Report :=
  match error, error.fault? with
  | .help, _ => ⟨0, CommandLine.helpText, [], files⟩
  | .version, _ => ⟨0, CommandLine.versionText, [], files⟩
  | _, none => ⟨2, [], CommandLine.helpText, files⟩
  | _, some fault =>
    ⟨2, [], "error: ".toList ++ fault ++ "\n\nFor more information, try '--help'.\n".toList, files⟩

/-- The report on work that was done. -/
def conclude (outcome : Outcome ProgramError Unit) : Report :=
  let (printed, _) := (Console.mk false none).writeAll outcome.actions
  match outcome.result with
  | .ok _ => ⟨0, printed, [], outcome.files⟩
  | .error error => ⟨1, printed, "Error: ".toList ++ error.message ++ ['\n'], outcome.files⟩

/-- The program for a list of arguments. -/
def run (files : FileSystem) (home? : Option Text) (arguments : List Text) : Report :=
  match CommandLine.Invocation.parse arguments with
  | .error error => refuse files error
  | .ok invocation => conclude (invocation.perform files home?)

end Program

end IconComponents
