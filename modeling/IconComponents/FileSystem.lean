/-
**File systems.**

A file system is the list of its files and directories, each at the list of names that leads to it
from the root, and a working directory. A path is followed segment by segment: every segment but
the last must lead to a directory, `..` leads back, and an empty segment or a dot leads nowhere but
asks for a directory.

* `FileSystem.locate` — where a path leads;
* `FileSystem.read?`, `FileSystem.write?` — the content of a file;
* `FileSystem.makeDirectories` — a directory with all that is missing above it;
* `FileSystem.canonical?` — the path of an entry without detours.
-/

import IconComponents.Content
import IconComponents.Path

namespace IconComponents

/-- The names that lead from the root to an entry. -/
abbrev Location := List Text

namespace Location

/-- The absolute path of a location. -/
def path (location : Location) : Text :=
  if location.isEmpty then ['/'] else location.flatMap fun name => '/' :: name

/-- The order of locations: a directory comes before what is in it, siblings are ordered by
name. -/
def comesBefore : Location → Location → Bool
  | _, [] => false
  | [], _ :: _ => true
  | a :: s, b :: t => if a = b then comesBefore s t else Text.before a b

end Location

/-- What is at a location. -/
inductive Entry where
  | directory
  | file (content : Content)
  deriving Repr, DecidableEq

/-- Files and directories below the root, and the working directory, which relative paths start
from. -/
structure FileSystem where
  entries : List (Location × Entry)
  current : Location
  deriving Repr, DecidableEq

/-- Why a path leads nowhere: an entry is missing, one on the way is not a directory, or a name is
too long for any entry. -/
inductive WalkError where
  | missing
  | notDirectory
  | tooLong
  deriving Repr, DecidableEq

namespace FileSystem

/-- How many bytes a name has at most. -/
def nameLimit : Nat := 255

/-- How many bytes a path has at most. -/
def pathLimit : Nat := 4095

/-! ### Looking up -/

/-- The entry at a location. -/
def entry? (files : FileSystem) (location : Location) : Option Entry :=
  if location = [] then some .directory else files.entries.lookup location

/-- Follow one segment of a path from a location. -/
def step (files : FileSystem) (location : Location) (segment : Text) : Except WalkError Location :=
  if files.entry? location ≠ some .directory then .error .notDirectory
  else if Path.isVacuous segment then .ok location
  else if segment = ['.', '.'] then .ok location.dropLast
  else if nameLimit < segment.byteLength then .error .tooLong
  else if (files.entry? (location ++ [segment])).isSome then .ok (location ++ [segment])
  else .error .missing

/-- Follow the segments of a path from a location. -/
def walk (files : FileSystem) : Location → List Text → Except WalkError Location
  | location, [] => .ok location
  | location, segment :: segments =>
    match files.step location segment with
    | .ok next => files.walk next segments
    | .error error => .error error

/-- Where a path starts. -/
def start (files : FileSystem) (path : Text) : Location :=
  if Path.isAbsolute path then [] else files.current

/-- The segments of a path. A path that is empty, holds a NUL or is too long has none. -/
def segments? (path : Text) : Option (List Text) :=
  if path.isEmpty || path.elem '\x00' || pathLimit < path.byteLength then none
  else some (Text.splitOn '/' path)

/-- Where a path leads. -/
def locate (files : FileSystem) (path : Text) : Except WalkError Location :=
  match segments? path with
  | none => .error .missing
  | some segments => files.walk (files.start path) segments

/-- The entry that a path leads to. -/
def find? (files : FileSystem) (path : Text) : Option Entry :=
  match files.locate path with
  | .ok location => files.entry? location
  | .error _ => none

/-- Whether a path leads to anything. -/
def pathExists (files : FileSystem) (path : Text) : Bool := (files.find? path).isSome

/-- Whether a path leads to a directory. -/
def isDirectory (files : FileSystem) (path : Text) : Bool := files.find? path == some .directory

/-- The content of the file that a path leads to. -/
def read? (files : FileSystem) (path : Text) : Option Content :=
  match files.find? path with
  | some (.file content) => some content
  | _ => none

/-- Whether a path leads to a file. -/
def isFile (files : FileSystem) (path : Text) : Bool := (files.read? path).isSome

/-- The path of an entry without detours. -/
def canonical? (files : FileSystem) (path : Text) : Option Text :=
  match files.locate path with
  | .ok location => some location.path
  | .error _ => none

/-- The working directory as a path. -/
def currentPath (files : FileSystem) : Text := files.current.path

/-- The absolute form of a path: without detours if it leads somewhere, else as it is, seen from the
working directory. -/
def absolute (files : FileSystem) (path : Text) : Text :=
  (files.canonical? path).getD (Path.join files.currentPath path)

/-- The names of the entries of a directory. -/
def names (files : FileSystem) (directory : Location) : List Text :=
  files.entries.filterMap fun (location, _) =>
    if location.dropLast = directory then location.getLast? else none

/-- Put an entry into its place of a sorted list. -/
def insertSorted (entry : Location × Entry) : List (Location × Entry) → List (Location × Entry)
  | [] => [entry]
  | other :: sorted =>
    if Location.comesBefore other.1 entry.1 then other :: insertSorted entry sorted
    else entry :: other :: sorted

/-- The entries below a location, in order, with their locations from there. -/
def below (files : FileSystem) (location : Location) : List (Location × Entry) :=
  let entries := files.entries.filterMap fun (other, entry) =>
    if other ≠ location && other.take location.length = location then
      some (other.drop location.length, entry)
    else none
  entries.foldr insertSorted []

/-! ### Changing -/

/-- The file system with an entry at a location. -/
def put (files : FileSystem) (location : Location) (entry : Entry) : FileSystem :=
  if (files.entries.lookup location).isSome then
    { files with entries := files.entries.map fun (other, old) =>
        if other = location then (other, entry) else (other, old) }
  else { files with entries := files.entries ++ [(location, entry)] }

/-- Whether a segment can be the name of an entry. -/
def isName (segment : Text) : Bool :=
  !Path.isVacuous segment && segment != ['.', '.'] && segment.byteLength ≤ nameLimit

/-- The directory and the name that segments lead to. -/
def place (files : FileSystem) (location : Location) (segments : List Text) :
    Except WalkError (Location × Text) :=
  match files.walk location segments.dropLast with
  | .error error => .error error
  | .ok parent =>
    if files.entry? parent = some .directory then .ok (parent, segments.getLast?.getD [])
    else .error .notDirectory

/-- Write a file, a new one or over an old one; the directory has to exist. -/
def write? (files : FileSystem) (path : Text) (content : Content) : Option FileSystem :=
  match files.locate path with
  | .ok location =>
    match files.entry? location with
    | some (.file _) => some (files.put location (.file content))
    | _ => none
  | .error _ =>
    match (segments? path).map (files.place (files.start path)) with
    | some (.ok (parent, name)) =>
      if isName name && (files.entry? (parent ++ [name])).isNone then
        some (files.put (parent ++ [name]) (.file content))
      else none
    | _ => none

/-- What comes of making a directory: it is made, something is there already, a directory above is
missing, or something above is not a directory or the path cannot be one (`blocked`). -/
inductive Making where
  | made (files : FileSystem)
  | occupied
  | missing
  | blocked

/-- Make one directory. -/
def makeDirectory (files : FileSystem) (path : Text) : Making :=
  match segments? path with
  | none => .blocked
  | some segments =>
    match (segments.reverse.dropWhile List.isEmpty).reverse with
    | [] => .occupied
    | segments =>
      match files.place (files.start path) segments with
      | .error .missing => .missing
      | .error _ => .blocked
      | .ok (parent, name) =>
        if isName name && (files.entry? (parent ++ [name])).isNone then
          .made (files.put (parent ++ [name]) .directory)
        else .occupied

/-- Make a directory whose parent is there. The answer says whether the directory is there then. -/
def ensure (files : FileSystem) (path : Text) : Bool × FileSystem :=
  match files.makeDirectory path with
  | .made files => (true, files)
  | _ => (files.isDirectory path, files)

/-- Make a directory below the directories of a list, nearest first, after making those that are
missing. The answer says whether the directory is there then; what was made until then stays. -/
def makeBelow (files : FileSystem) (path : Text) : List Text → Bool × FileSystem
  | [] => if path.isEmpty then (true, files) else files.ensure path
  | parent :: others =>
    if path.isEmpty then (true, files)
    else
      match files.makeDirectory path with
      | .missing =>
        match files.makeBelow parent others with
        | (true, files) => files.ensure path
        | (false, files) => (false, files)
      | _ => files.ensure path

/-- Make a directory and all that is missing above it. -/
def makeDirectories (files : FileSystem) (path : Text) : Bool × FileSystem :=
  files.makeBelow path (Path.parents path)

/-- The file system without the file that a path leads to. -/
def remove? (files : FileSystem) (path : Text) : Option FileSystem :=
  match files.locate path with
  | .ok location =>
    match files.entry? location with
    | some (.file _) =>
      some { files with entries := files.entries.filter fun (other, _) => other ≠ location }
    | _ => none
  | .error _ => none

/-- The file system seen from the directory that a path leads to. -/
def enter? (files : FileSystem) (path : Text) : Option FileSystem :=
  match files.locate path with
  | .ok location =>
    if files.entry? location = some .directory then some { files with current := location }
    else none
  | .error _ => none

end FileSystem

end IconComponents
