/-
**The program on the files of a machine.**

The files that a run can meet are read into a file system value, the program runs on that value, and
the files and directories that it made or changed are written back.
-/

import IconComponents.Program

namespace IconComponents.Machine

/-- What is at a location of the machine. -/
def entry? (location : Location) : IO (Option Entry) := do
  let path := String.ofList location.path
  try
    let found ← (← IO.FS.realPath path).metadata
    match found.type with
    | .dir => return some .directory
    | .file => return some (.file (.ofBytes (← IO.FS.readBinFile path)))
    | _ => return none
  catch _ => return none

/-- Read the entry at a location. -/
def readEntry (files : FileSystem) (location : Location) : IO FileSystem := do
  match ← entry? location with
  | some entry => return if location.isEmpty then files else files.put location entry
  | none => return files

/-- Read the entries below a directory down to a depth. -/
def readBelow : Nat → FileSystem → Location → IO FileSystem
  | 0, files, _ => return files
  | depth + 1, files, location => do
    if files.entry? location ≠ some .directory then return files
    let mut files := files
    for found in ← (← IO.FS.realPath (String.ofList location.path)).readDir do
      let inner := location ++ [found.fileName.toList]
      files ← readBelow depth (← readEntry files inner) inner
    return files

/-- Read the entries that a path leads through, and those below it down to a depth. -/
def readPath (depth : Nat) (files : FileSystem) (path : Text) : IO FileSystem := do
  let mut files := files
  let mut location := files.start path
  for segment in Text.splitOn '/' path do
    if !Path.isVacuous segment then
      location := if segment = ['.', '.'] then location.dropLast else location ++ [segment]
      files ← readEntry files location
  readBelow depth files location

/-- The deepest tree of directories that is searched. -/
def greatestDepth : Nat := 128

/-- Whether a segment of a pattern stands for itself. -/
def isFixed (segment : Text) : Bool := !segment.any fun c => c = '*' || c = '?' || c = '['

/-- The directory below which all entries of a pattern are, and how deep they can be. -/
def reach (pattern : Text) : Text × Nat :=
  let segments := Text.splitOn '/' pattern
  let wild := segments.dropWhile isFixed
  let depth := if wild.contains ['*', '*'] then greatestDepth else wild.length
  (Text.joinWith ['/'] (segments.takeWhile isFixed) ++ ['/'], depth)

/-- Read the files that an invocation can meet. -/
def readFor (invocation : CommandLine.Invocation) (files : FileSystem) (home? : Option Text) :
    IO FileSystem := do
  let here := files.currentPath
  match invocation.command with
  | .init directory? =>
    let root := directory?.getD ['.']
    [Project.configName, Project.templateName].foldlM
      (fun files name => readPath 0 files (Path.join root name)) files
  | .generate overrides =>
    let name := invocation.configName
    let places := (here :: Path.parents here).map fun place => Path.join place name
    let files ← places.foldlM (readPath 0) files
    match (Config.load files home? name overrides).result with
    | .error _ => return files
    | .ok config =>
      let (start, depth) := reach config.entry
      let files ← readPath depth files start
      let files ← readPath 1 files config.output
      config.template.toList.foldlM (readPath 0) files

/-- Write what was made or changed. -/
def writeBack (before after : FileSystem) : IO Unit := do
  for (location, entry) in after.entries do
    if before.entries.lookup location ≠ some entry then
      let path := String.ofList location.path
      match entry with
      | .directory => IO.FS.createDirAll path
      | .file content => IO.FS.writeBinFile path content.toBytes

/-- The location of the working directory. -/
def workingDirectory : IO Location := do
  let path := (← IO.currentDir).toString.toList
  return (Text.splitOn '/' path).filter (!Path.isVacuous ·)

/-- Run the program; the result is its exit code. -/
def run (arguments : List Text) : IO UInt32 := do
  let home? := (← IO.getEnv "HOME").map String.toList
  let here ← workingDirectory
  let bare ← readPath 0 ⟨[], here⟩ here.path
  let files ← match CommandLine.Invocation.parse arguments with
    | .ok invocation => readFor invocation bare home?
    | .error _ => pure bare
  let report := Program.run files home? arguments
  writeBack files report.files
  IO.print (String.ofList report.printed)
  IO.eprint (String.ofList report.complaint)
  return report.code.toUInt32

end IconComponents.Machine

/-- The command line. -/
def main (arguments : List String) : IO UInt32 :=
  IconComponents.Machine.run (arguments.map String.toList)
