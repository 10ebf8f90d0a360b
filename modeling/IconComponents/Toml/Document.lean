/-
**Documents of settings.**

A document is a tree of tables, kept as the flat list of its nodes: each node has the path that
leads to it, and the order of the list is the order in which the nodes were defined. Nothing can be
defined twice; what a statement may add to depends on how a table came to be.

* `Kind` — a value, a table, or a list of tables;
* `Document.define?` — define a value by a key, below a table;
* `Document.open?`, `Document.append?` — start a table, or the next table of a list;
* `Document.settings` — the nodes at the top, in order.
-/

import IconComponents.Text.Basic

namespace IconComponents.Toml

/-- A value. No setting is of another kind than a text or a yes or no, so values of other kinds,
which are numbers, dates, lists and inline tables, are not told apart. -/
inductive Value where
  | text (words : Text)
  | flag (on : Bool)
  | other
  deriving Repr, DecidableEq

/-- A step from a node to one below it: the entry of a table, or the table of a list. -/
inductive Step where
  | key (name : Text)
  | index (i : Nat)
  deriving Repr, DecidableEq

/-- What a node is: a value, a table, or a list of tables with its length. A table is implicit if it
only came to be by a longer path, and dotted if that path was a key. -/
inductive Kind where
  | value (value : Value)
  | table (implicit dotted : Bool)
  | tables (length : Nat)
  deriving Repr, DecidableEq

/-- The nodes of a document with their paths, in the order of their definition. -/
abbrev Document := List (List Step × Kind)

namespace Document

/-- The node at a path. -/
def find? (document : Document) (path : List Step) : Option Kind := document.lookup path

/-- The document without the node at a path. -/
def erase (document : Document) (path : List Step) : Document :=
  document.filter fun (other, _) => other != path

/-- The document with another node at a path that has one. -/
def set (document : Document) (path : List Step) (kind : Kind) : Document :=
  document.map fun (other, old) => if other = path then (other, kind) else (other, old)

/-- Go down from a table along keys, and make the tables that are missing. A list of tables is
entered at its last one. By a dotted key only tables can be entered that such paths made. -/
def descend? (dotted : Bool) : List Text → List Step → Document → Option (List Step × Document)
  | [], path, document => some (path, document)
  | name :: names, path, document =>
    let path := path ++ [.key name]
    match document.find? path with
    | none => descend? dotted names path (document ++ [(path, .table true dotted)])
    | some (.value _) => none
    | some (.table implicit _) =>
      if dotted && !implicit then none else descend? dotted names path document
    | some (.tables length) => descend? dotted names (path ++ [.index (length - 1)]) document

/-- Whether a path leads to a table that was made by a dotted key. -/
def isDotted (document : Document) (path : List Step) : Bool :=
  match document.find? path with
  | some (.table _ dotted) => dotted
  | _ => false

/-- Define a value by a dotted key, below the table at a path. -/
def define? (path : List Step) (key : List Text) (value : Value) (document : Document) :
    Option Document := do
  let name ← key.getLast?
  let (table, document) ← descend? true key.dropLast path document
  let path := table ++ [.key name]
  if key.length != 1 && !document.isDotted table then none
  else if (document.find? path).isSome then none
  else some (document ++ [(path, .value value)])

/-- Start a table. One that was only passed through so far moves to the end. -/
def open? (key : List Text) (document : Document) : Option (List Step × Document) := do
  let name ← key.getLast?
  let (parent, document) ← descend? false key.dropLast [] document
  let path := parent ++ [.key name]
  match document.find? path with
  | none => some (path, document ++ [(path, .table false false)])
  | some (.table true false) => some (path, document.erase path ++ [(path, .table false false)])
  | _ => none

/-- Start the next table of a list of tables. -/
def append? (key : List Text) (document : Document) : Option (List Step × Document) := do
  let name ← key.getLast?
  let (parent, document) ← descend? false key.dropLast [] document
  let path := parent ++ [.key name]
  match document.find? path with
  | none => some (path ++ [.index 0], document ++ [(path, .tables 1)])
  | some (.tables length) =>
    some (path ++ [.index length], document.set path (.tables (length + 1)))
  | _ => none

/-- The nodes at the top, in order, with their names. -/
def settings (document : Document) : List (Text × Kind) :=
  document.filterMap fun
    | ([.key name], kind) => some (name, kind)
    | _ => none

end Document

end IconComponents.Toml
