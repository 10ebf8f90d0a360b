/-
**Paths as written.**

A path is kept as the text it was written as, because that text is printed again; where it leads
is decided by its segments between slashes. Empty segments and dots inside a path lead nowhere
new, so `components` leaves them out.

* `join` — a path below another one; an absolute path replaces it;
* `parents` — the path's parents from the nearest on, each a start of the text;
* `fileName?` — the last component, unless the path ends in `..` or has none;
* `comesBefore` — the order of paths, component by component.
-/

import IconComponents.Text.Basic

namespace IconComponents

namespace Path

/-- Whether a path starts at the root. -/
def isAbsolute : Text → Bool
  | '/' :: _ => true
  | _ => false

/-- `path` seen from `base`. -/
def join (base path : Text) : Text :=
  if isAbsolute path || base.isEmpty || base.getLast? == some '/' then
    if isAbsolute path then path else base ++ path
  else base ++ '/' :: path

/-- A segment that leads nowhere new. -/
def isVacuous (segment : Text) : Bool := segment == [] || segment == ['.']

/-- The start of a path (`/`, a leading `.`, or nothing) and the segments after it. -/
def shape : Text → Text × List Text
  | '/' :: rest => (['/'], Text.splitOn '/' rest)
  | path =>
    match Text.splitOn '/' path with
    | ['.'] :: body => (['.'], body)
    | body => ([], body)

/-- The path of a given shape. -/
def ofShape (lead : Text) (body : List Text) : Text :=
  if lead = ['.'] then body.foldl (fun path segment => path ++ '/' :: segment) lead
  else lead ++ Text.joinWith ['/'] body

/-- A step of a path: the root, the directory itself at the start of a relative path (`current`),
the directory above, or an entry. The order of the constructors is the order of paths. -/
inductive Component where
  | root
  | current
  | parent
  | entry (name : Text)
  deriving Repr, DecidableEq

/-- The step that a segment stands for. -/
def Component.ofSegment (segment : Text) : Component :=
  if segment = ['.', '.'] then .parent else .entry segment

/-- The steps of a path. -/
def components (path : Text) : List Component :=
  let (lead, body) := shape path
  let start : List Component :=
    if lead = ['/'] then [.root] else if lead = ['.'] then [.current] else []
  start ++ (body.filter (!isVacuous ·)).map Component.ofSegment

/-- The name that a path ends in. -/
def fileName? (path : Text) : Option Text :=
  match (components path).getLast? with
  | some (.entry name) => some name
  | _ => none

/-- The starts of a list, the shortest first. -/
def starts {α : Type} : List α → List (List α)
  | [] => [[]]
  | a :: list => [] :: (starts list).map (a :: ·)

/-- Whether a list of segments ends in a step, or is empty. -/
def endsInStep (segments : List Text) : Bool := !(segments.getLast?.any isVacuous)

/-- The directories a path lies in as the path itself spells them, from the nearest on. -/
def parents (path : Text) : List Text :=
  let (lead, body) := shape path
  let trimmed := (body.reverse.dropWhile isVacuous).reverse
  ((starts trimmed).dropLast.filter endsInStep).reverse.map (ofShape lead) ++
    (if lead = ['.'] then [[]] else [])

/-- The directory that a path lies in. -/
def parent? (path : Text) : Option Text := (parents path).head?

/-- A number for each kind of component, in the order of paths. -/
def Component.rank : Component → Nat
  | .root => 0
  | .current => 1
  | .parent => 2
  | .entry _ => 3

/-- The order of components; entries are ordered by name. -/
def Component.comesBefore : Component → Component → Bool
  | .entry a, .entry b => Text.before a b
  | a, b => a.rank < b.rank

/-- The order of lists of components: the first difference decides. -/
def listComesBefore : List Component → List Component → Bool
  | _, [] => false
  | [], _ :: _ => true
  | a :: s, b :: t => if a = b then listComesBefore s t else a.comesBefore b

/-- The order of paths. -/
def comesBefore (a b : Text) : Bool := listComesBefore (components a) (components b)

/-- Put a path into its place of a sorted list, before the paths that it does not come after. -/
def insertSorted (path : Text) : List Text → List Text
  | [] => [path]
  | other :: sorted =>
    if comesBefore other path then other :: insertSorted path sorted else path :: other :: sorted

/-- Paths in order; equal ones keep theirs. -/
def sort (paths : List Text) : List Text := paths.foldr insertSorted []

end Path

end IconComponents
