/-
**From icon markup to component markup.**

The passes in their order: the root loses its size, every fill and then every stroke becomes a
placeholder, and dashed names become camel case.
-/

import IconComponents.Markup.DashedName
import IconComponents.Markup.Placeholder
import IconComponents.Markup.SvgTag

namespace IconComponents

/-- Every pass over an icon's markup, with the colours that were extracted from it. -/
def rewriteMarkup (markup : Text) (fill stroke : Occurrences) : Text :=
  camelizeDashed (stroke.install (fill.install (stripRootSize markup)))

end IconComponents
