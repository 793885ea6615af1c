import BombMission.Context

/-!
# Help

The text that explains the command line.
-/

namespace BombMission.CommandLine

def version : String := "mission-forge 0.4.0"

def helpLines : List String :=
  [version,
   "",
   "Compile a dynamic mission description into a bomb configuration.",
   "",
   "Usage:",
   "  mission-forge [OPTIONS] [--] <mission...>",
   "  mission-forge [OPTIONS] --input <text>",
   "  mission-forge [OPTIONS] --list",
   "",
   "Options:",
   "  -i, --input <text>         Mission text. If omitted, reads remaining args",
   "                             or stdin when no args are provided.",
   "  --modules <file>           JSON module catalog " ++
     "(\x7b\"solvable\", \"needy\", \"disabled\"\x7d).",
   "  --profiles <dir>           Directory of mod-selector profile *.json files.",
   "  --max-modules <n>          Largest module count per bomb. Default: " ++
     toString ({} : HostLimits).maxModules,
   "  --seed <n>                 Seed the random source for reproducible output.",
   "  --no-multiple-bombs        Host lacks the multiple-bombs extension.",
   "  --no-factory               Host lacks the factory extension.",
   "  --ruleseed-modifier        Host has the rule-seed modifier installed.",
   "  --json                     Print the compiled mission as JSON.",
   "  --list                     List every pool keyword and module id.",
   "  --color                    Force ANSI color output.",
   "  --no-color                 Disable ANSI color output.",
   "  -h, --help                 Show this help message.",
   "  -V, --version              Print version information.",
   "",
   "Logging:",
   "  RUST_LOG=mission_forge=debug shows scanner and parser traces.",
   "",
   "Exit codes:",
   "  0  Success.",
   "  1  The mission has problems, or a snapshot failed to load.",
   "  2  Invalid arguments or missing input."]

def help : String :=
  String.join (helpLines.map (· ++ "\n"))

end BombMission.CommandLine
