/-
**The entries of a pattern.**

A pattern is a path whose components are patterns for names. It is expanded component by component
against a file system; a component without wildcards is looked up, one with wildcards is compared
with all names of its directory, also those that start with a dot.

* `PathPattern.parse` — the components of a pattern;
* `PathPattern.expand` — the paths that a pattern stands for.
-/

import IconComponents.FileSystem
import IconComponents.Glob.Pattern

namespace IconComponents

/-- A pattern for paths: whether it starts at the root, its components, and whether it ends in a
slash, so that it stands for directories only. -/
structure PathPattern where
  absolute : Bool
  components : List Pattern
  directory : Bool
  deriving Repr, DecidableEq

namespace PathPattern

/-- The components of a text; a slash at its end ends the last one. -/
def splitComponents (text : Text) : List Text :=
  match (Text.splitOn '/' text).reverse with
  | [] :: components => components.reverse
  | components => components.reverse

/-- A component `**` after another one adds nothing. -/
def collapse : List Pattern → List Pattern
  | [] => []
  | [component] => [component]
  | component :: next :: components =>
    if component.isDirectories && next.isDirectories then collapse (next :: components)
    else component :: collapse (next :: components)

/-- The components of a pattern. The pattern as a whole has to be well formed, and each component
by itself. -/
def parse (text : Text) : Except Pattern.Flaw PathPattern := do
  let _ ← Pattern.parse text
  let absolute := Path.isAbsolute text
  let components ← (splitComponents (if absolute then text.drop 1 else text)).mapM Pattern.parse
  let components := if absolute && text.length = 1 then [[]] else components
  .ok ⟨absolute, collapse components, text.getLast? == some '/'⟩

end PathPattern

namespace FileSystem

/-- A name below a path; below the working directory it stands alone. -/
def child (path name : Text) : Text :=
  if Path.components path = [.current] then name else Path.join path name

/-- The paths of the entries of a directory, with their names. -/
def children (files : FileSystem) (path : Text) : List (Text × Text) :=
  match files.locate path with
  | .ok location => (files.names location).map fun name => (child path name, name)
  | .error _ => []

/-- The paths of all entries below a directory, with their names. -/
def descendants (files : FileSystem) (path : Text) : List (Text × Text) :=
  match files.locate path with
  | .ok location =>
    (files.below location).filterMap fun (names, _) =>
      names.getLast?.map fun name => (names.foldl child path, name)
  | .error _ => []

/-- The paths that the components of a pattern stand for below a path. -/
def expandBelow (files : FileSystem) (directory : Bool) : List Pattern → Text → List Text
  | [], path => if directory && !files.isDirectory path then [] else [path]
  | component :: components, path =>
    match component.literal? with
    | some name =>
      let next := child path name
      let isSpecial := name = ['.'] || name = ['.', '.']
      let found := if isSpecial then files.isDirectory path else files.pathExists next
      if found then files.expandBelow directory components next else []
    | none =>
      if !files.isDirectory path then []
      else if component.isDirectories then
        match components with
        | [] => ((files.descendants path).map (·.1)).filter files.isDirectory
        | next :: rest =>
          (files.descendants path).flatMap fun (entry, name) =>
            if next.accepts name then files.expandBelow directory rest entry else []
      else
        let entries := (files.children path).flatMap fun (entry, name) =>
          if component.accepts name then files.expandBelow directory components entry else []
        let dots : List Text :=
          if component.head? = some (.char '.') then [['.'], ['.', '.']] else []
        entries ++ dots.flatMap fun name =>
          if component.accepts name then
            files.expandBelow directory components (Path.join path name)
          else []

/-- The paths that a pattern stands for. -/
def expand (files : FileSystem) (pattern : PathPattern) : List Text :=
  if pattern.components.isEmpty then []
  else
    files.expandBelow pattern.directory pattern.components
      (if pattern.absolute then ['/'] else ['.'])

end FileSystem

end IconComponents
