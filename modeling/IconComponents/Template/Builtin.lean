/-
**The template for a component without one of its own.**

A function component in typed source: it names the icon's file, gives each colour property the
icon's own colours as default, and draws the icon at its natural size.
-/

import IconComponents.Template.Basic

namespace IconComponents

/-- The lines of the built-in template. -/
def builtinLines : List String :=
  ["/* svg_file: \x7b\x7bpath\x7d\x7d */",
   "import type \x7b SVGProps \x7d from 'react';",
   "\x7b\x7b#if fill\x7d\x7d",
   "",
   "const DEFAULT_FILL_VALUE = \x7b\x7bfill\x7d\x7d;",
   "\x7b\x7b/if\x7d\x7d",
   "\x7b\x7b#if stroke\x7d\x7d",
   "",
   "const DEFAULT_STROKE_VALUE = \x7b\x7bstroke\x7d\x7d;",
   "\x7b\x7b/if\x7d\x7d",
   "",
   "type TProps = Omit<SVGProps<SVGSVGElement>, 'width' | 'height' | 'fill' | 'stroke'> & \x7b",
   "  width?: number | string;",
   "  height?: number | string;",
   "\x7d\x7b\x7b#if prop_type\x7d\x7d & \x7b\x7bprop_type\x7d\x7d\x7b\x7b/if\x7d\x7d;",
   "",
   "/**",
   " * \x7b\x7bcomponent_name\x7d\x7d icon, \x7b\x7bwidth\x7d\x7dx\x7b\x7bheight\x7d\x7d.",
   " *",
   " * @param \x7bTProps\x7d props",
   " */",
   "export function \x7b\x7bcomponent_name\x7d\x7d(props: TProps) \x7b",
   "  const \x7b",
   "    width = \x7b\x7bwidth\x7d\x7d,",
   "    height = \x7b\x7bheight_default\x7d\x7d,",
   "\x7b\x7b#if fill\x7d\x7d",
   "    fill = DEFAULT_FILL_VALUE,",
   "\x7b\x7b/if\x7d\x7d",
   "\x7b\x7b#if stroke\x7d\x7d",
   "    stroke = DEFAULT_STROKE_VALUE,",
   "\x7b\x7b/if\x7d\x7d",
   "    className,",
   "    style,",
   "    ...rest",
   "  \x7d = props;",
   "  const sizeStyle = \x7b width, height, ...style \x7d;",
   "",
   "  return (",
   "    <svg className=\x7bclassName ? `icon $\x7bclassName\x7d` : 'icon'\x7d style=\x7bsizeStyle\x7d \x7b...rest\x7d />",
   "  );",
   "\x7d",
   "",
   "export default \x7b\x7bcomponent_name\x7d\x7d;"]

/-- The text of the built-in template. -/
def builtinSource : Text := builtinLines.flatMap fun line => line.toList ++ ['\n']

end IconComponents
