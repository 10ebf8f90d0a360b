/-
**Templates.**

A template is a sequence of texts, fields, calls and blocks. A block has a body and an alternative;
a chain of conditions is a block in the alternative, and stands where the first block opens.

* `Template` — the tree;
* `Template.ofParts?` — the tree of a template's parts, if every block is closed in its place;
* `Template.parse?` — the template written by a text.
-/

import IconComponents.Template.Layout

namespace IconComponents

/-- A template, element by element: a text that is written as it is, a field, a helper called in
place, another template (`inclusion`), or a block, whose helper decides between body and
alternative. -/
inductive Template where
  | done
  | text (text : Text) (rest : Template)
  | field (position : Position) (reference : Reference) (rest : Template)
  | call (position : Position) (call : Call) (rest : Template)
  | inclusion (position : Position) (name : Text) (parameters : Parameters) (rest : Template)
  | block (position : Position) (call : Call) (body alternative rest : Template)
  deriving Repr, DecidableEq

/-- A block whose closing tag was met when reading from the end: the helper that its opening tag
must have, which the outermost one lacks, the elements read since the last tag of the block, the
conditions that follow with their bodies, and the alternative without a condition. -/
structure OpenBlock where
  helper : Option Text
  body : Template
  chain : List (Call × Template)
  alternative : Option Template
  deriving Repr, DecidableEq

namespace OpenBlock

/-- A block of which nothing but the closing tag is known. -/
def closedBy (helper : Option Text) : OpenBlock := ⟨helper, .done, [], none⟩

/-- The alternatives as one template; chained blocks stand where the first one opens. -/
def alternatives (block : OpenBlock) (position : Position) : Template :=
  block.chain.foldr (fun (call, body) otherwise => .block position call body otherwise .done)
    (block.alternative.getD .done)

/-- Put an element in front of the body. -/
def push (block : OpenBlock) (element : Template → Template) : OpenBlock :=
  { block with body := element block.body }

end OpenBlock

namespace Template

/-- Read one part in front of the blocks that are open to its right. -/
def readPart (part : Part) (blocks : List OpenBlock) : Option (List OpenBlock) :=
  match part, blocks with
  | _, [] => none
  | .text [], blocks => some blocks
  | .text words, inner :: outer => some (inner.push (.text words) :: outer)
  | .tag _ .comment, blocks => some blocks
  | .tag position (.field reference), inner :: outer =>
    some (inner.push (.field position reference) :: outer)
  | .tag position (.call helper), inner :: outer =>
    some (inner.push (.call position helper) :: outer)
  | .tag position (.inclusion name parameters), inner :: outer =>
    some (inner.push (.inclusion position name parameters) :: outer)
  | .tag _ (.closing helper), blocks => some (.closedBy (some helper) :: blocks)
  | .tag _ (.alternative (some helper)), inner :: outer =>
    if inner.helper.isNone then none
    else some ({ inner with body := .done, chain := (helper, inner.body) :: inner.chain } :: outer)
  | .tag _ (.alternative none), inner :: outer =>
    if inner.helper.isNone || !inner.chain.isEmpty || inner.alternative.isSome then none
    else some ({ inner with body := .done, alternative := some inner.body } :: outer)
  | .tag _ (.opening _), [_] => none
  | .tag position (.opening helper), inner :: next :: outer =>
    if inner.helper = some helper.helper then
      let alternatives := inner.alternatives position
      some (next.push (.block position helper inner.body alternatives) :: outer)
    else none

/-- The template of a list of parts. -/
def ofParts? (parts : List Part) : Option Template :=
  match parts.foldr (fun part blocks => blocks.bind (readPart part)) (some [.closedBy none]) with
  | some [outermost] => if outermost.helper.isNone then some outermost.body else none
  | _ => none

/-- The template that a text writes. -/
def parse? (source : Text) : Option Template := (partsOf? source).bind ofParts?

end Template

end IconComponents
