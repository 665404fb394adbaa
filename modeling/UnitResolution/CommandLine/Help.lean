/-!
# Help

The text that the command line shows when it is asked for help, and its version.
-/

namespace UnitResolution.CommandLine

/-- The version of the command line. -/
def version : String := "0.3.0"

/-- The lines of the help text. -/
def helpLines : List String := [
    "",
    "unitgraph - source resolution and analysis contexts v" ++ version,
    "",
    "USAGE:",
    "  unitgraph <command> [options]",
    "",
    "COMMANDS:",
    "  resolve <identifier>      Print the source an identifier resolves to",
    "  chain                     Print the resolver chain in dispatch order",
    "  analyze <identifier>      Resolve a unit and its imports, print inferred declarations",
    "",
    "GLOBAL OPTIONS:",
    "  -h, --help                Show help",
    "  -v, --version             Show version",
    "  -V, --verbose             Verbose output",
    "  -q, --quiet               Suppress informational output",
    "  -c, --config <file>       Config file path (default: unitgraph.json)",
    "",
    "ENVIRONMENT OPTIONS:",
    "  --runtime <dir>           Runtime library directory (replaces a mock runtime)",
    "  --package-root <dir>      Single package root",
    "  --package-roots <a,b,..>  Package roots, searched in order",
    "  --entry <file>            Serve an implicit entry document for <file>",
    "  --no-transitive           Do not infer imported bindings",
    "  --only-constants          Only infer const declarations",
    "",
    "IDENTIFIERS:",
    "  rt:<library>[/<part>]     Runtime library unit",
    "  pkg:<package>/<path>      Module package unit",
    "  file:///abs/path          File on disk; plain paths are taken as files",
    "",
    "EXAMPLES:",
    "  unitgraph chain",
    "  unitgraph resolve rt:core",
    "  unitgraph resolve pkg:util/index.ts --package-roots vendor,packages",
    "  unitgraph analyze src/main.ts --only-constants",
    ""]

/-- The help text. -/
def helpText : String := String.intercalate "\n" helpLines

/-- The line that tells the version. -/
def versionLine : String := "unitgraph v" ++ version

end UnitResolution.CommandLine
