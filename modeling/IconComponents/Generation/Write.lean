/-
**Writing a component.**

A component is one file in the output directory, named after the component. The directory is made
with all that is missing above it.
-/

import IconComponents.Generation.Error
import IconComponents.Outcome

namespace IconComponents

/-- The file of a component. -/
def componentPath (output name extension : Text) : Text := Path.join output (name ++ extension)

/-- Write the source of a component; the result is the path of its file. -/
def writeComponent (files : FileSystem) (output name extension source : Text) :
    Outcome FileError Text :=
  match files.makeDirectories output with
  | (false, files) => .failed files (.unmade output)
  | (true, files) =>
    let path := componentPath output name extension
    match files.write? path (.text source) with
    | some files => .done files path
    | none => .failed files (.unwritten path)

end IconComponents
