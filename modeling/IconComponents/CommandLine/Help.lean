/-
**Help on the command line.**

The help says what the program is for, which commands it has, and which options they know.
-/

import IconComponents.Config.Starter

namespace IconComponents.CommandLine

/-- The lines of the help. -/
def helpLines : List String :=
  ["generate typed UI components from a directory of SVG icons",
   "",
   "Usage: icongen [OPTIONS] <COMMAND>",
   "",
   "Commands:",
   "  generate  Generate one component per SVG icon [aliases: g]",
   "  init      Write a starter config and a copy of the default template [aliases: i]",
   "  help      Print this message",
   "",
   "Options:",
   "      --color <COLOR>          Control colored output (auto, always, never)",
   "  -C, --config <CONFIG>        Config file path [default: icongen.toml]",
   "  -h, --help                   Print help",
   "  -V, --version                Print version",
   "",
   "Options of generate:",
   "  -e, --entry <ENTRY>          Glob pattern selecting SVG files",
   "  -o, --output <OUTPUT>        Output directory for generated components",
   "  -r, --rewrite [<REWRITE>]    Regenerate components that already exist",
   "  -p, --prefix <PREFIX>        Prefix for component names",
   "  -P, --postfix <POSTFIX>      Postfix for component names",
   "  -x, --extension <EXTENSION>  Extension of generated files",
   "  -t, --template <TEMPLATE>    Handlebars template for one component",
   "  -V, --verbose                Enable verbose output",
   "",
   "Arguments of init:",
   "  [DIR]                        Project directory"]

/-- The text of the help. -/
def helpText : Text := helpLines.flatMap fun line => line.toList ++ ['\n']

/-- The name of the program with its version. -/
def versionText : Text := "icongen ".toList ++ StarterConfig.version ++ ['\n']

end IconComponents.CommandLine
