/-
**Why generation stops.**

Every error stops a run: a library of components that is only partly there is of no use.

* `FileError` — a file or directory that cannot be read or made;
* `GenerationError` — why a run stops; `GenerationError.message` says it.
-/

import IconComponents.Component.Source
import IconComponents.Glob.Pattern

namespace IconComponents

/-- What cannot be done: a template or another file cannot be read, a directory cannot be made, or a
file cannot be written. -/
inductive FileError where
  | templateUnread (path : Text)
  | unread (path : Text)
  | unmade (path : Text)
  | unwritten (path : Text)
  deriving Repr, DecidableEq

/-- The error in words. -/
def FileError.message : FileError → Text
  | templateUnread path => "Failed to read template ".toList ++ path
  | unread path => "Failed to read ".toList ++ path
  | unmade path => "Failed to create ".toList ++ path
  | unwritten path => "Failed to write ".toList ++ path

/-- Why generation stops: no pattern says which icons to take, or the pattern is not well formed, a
file is no icon, a component has no source, or a file or directory cannot be read or made. -/
inductive GenerationError where
  | noEntry
  | malformedEntry (pattern : Text) (flaw : Pattern.Flaw)
  | notAnIcon (path : Text) (cause : MinifyError)
  | noSource (cause : ComponentError)
  | file (cause : FileError)
  deriving Repr, DecidableEq

/-- The error in words. -/
def GenerationError.message : GenerationError → Text
  | noEntry => "configuration error: entry should not be empty".toList
  | malformedEntry pattern flaw =>
    "configuration error: invalid entry pattern `".toList ++ pattern ++ "`: ".toList ++ flaw.message
  | notAnIcon path cause =>
    "failed to minify `".toList ++ path ++ "`: ".toList ++ cause.message
  | noSource cause => cause.message
  | file cause => cause.message

end IconComponents
