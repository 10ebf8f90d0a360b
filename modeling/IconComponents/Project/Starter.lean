/-
**A new project.**

A new project gets a configuration file and a copy of the built-in template, which it can change.
Files that are there already are left alone.

* `createMissing` — a file, unless there is one;
* `createProject` — both files of a new project.
-/

import IconComponents.Config.Starter
import IconComponents.Outcome
import IconComponents.Template.Builtin

namespace IconComponents

/-- Why a project cannot be made: a directory cannot be made, or a file cannot be written. -/
inductive ProjectError where
  | unmade (path : Text)
  | unwritten (path : Text)
  deriving Repr, DecidableEq

/-- The error in words. -/
def ProjectError.message : ProjectError → Text
  | unmade path => "Failed to create ".toList ++ path
  | unwritten path => "Failed to write '".toList ++ path ++ ['\'']

namespace Project

/-- The name of the configuration file. -/
def configName : Text := "icongen.toml".toList

/-- The path of the template. -/
def templateName : Text := "templates/icon.tsx.hbs".toList

/-- The configuration of a new project. -/
def starter : StarterConfig := ⟨"icons/**/*.svg".toList, "src/icons".toList, templateName⟩

/-- A message about a new project. -/
def say (words : Text) : Console.Action := .message "init".toList words

/-- Write a file whose directory is there. -/
def create (files : FileSystem) (path content : Text) : Outcome ProjectError Unit :=
  match files.write? path (.text content) with
  | some files => Outcome.behind [say ("created ".toList ++ path)] (.done files ())
  | none => .failed files (.unwritten path)

/-- Write a file with all directories above it, unless there is something already. -/
def createMissing (files : FileSystem) (path content : Text) : Outcome ProjectError Unit :=
  if files.pathExists path then
    Outcome.behind [say (path ++ " exists, skipped".toList)] (.done files ())
  else
    match Path.parent? path with
    | none => create files path content
    | some parent =>
      match files.makeDirectories parent with
      | (false, files) => .failed files (.unmade parent)
      | (true, files) => create files path content

end Project

/-- Make a project in a directory. -/
def createProject (files : FileSystem) (root : Text) : Outcome ProjectError Unit :=
  match files.makeDirectories root with
  | (false, files) => .failed files (.unmade root)
  | (true, files) =>
    (Project.createMissing files (Path.join root Project.configName)
      Project.starter.render).andThen fun files _ =>
    (Project.createMissing files (Path.join root Project.templateName)
      builtinSource).andThen fun files _ =>
    Outcome.behind [Project.say ("ready, run `icongen generate` in ".toList ++ root)]
      (.done files ())

end IconComponents
