/-!
# Help pages

The pages that explain the command line, one for the program and one for each of its commands.
-/

namespace FrontendPolicy

/-- What a help page is about. -/
inductive HelpTopic where
  | program
  | describe
  | table
  | check
  | help
deriving DecidableEq, Repr

/-- The lines of a help page. -/
def HelpTopic.lines : HelpTopic → List String
  | .program =>
    ["Action classification and output-path policy for a compiler frontend",
      "",
      "Usage: frontend-options <COMMAND>",
      "",
      "Commands:",
      "  describe  Show what a single action can produce [alias: d]",
      "  table     Print the policy table for every action [alias: t]",
      "  check     Check a frontend options file for unused output paths [alias: c]",
      "  help      Print this message or the help of the given subcommand(s)",
      "",
      "Options:",
      "  -h, --help     Print help",
      "  -V, --version  Print version",
      "",
      "ENVIRONMENT:",
      "    RUST_LOG=debug    Enable debug logging"]
  | .describe =>
    ["Show what a single action can produce",
      "",
      "Usage: frontend-options describe [OPTIONS] <ACTION>",
      "",
      "Arguments:",
      "  <ACTION>  Action token (e.g. emit-object, typecheck, repl)",
      "",
      "Options:",
      "  -j, --json  Print JSON instead of a formatted listing",
      "  -h, --help  Print help"]
  | .table =>
    ["Print the policy table for every action",
      "",
      "Usage: frontend-options table [OPTIONS]",
      "",
      "Options:",
      "  -j, --json  Print JSON instead of a formatted table",
      "  -h, --help  Print help"]
  | .check =>
    ["Check a frontend options file for unused output paths",
      "",
      "Usage: frontend-options check [OPTIONS] <CONFIG>",
      "",
      "Arguments:",
      "  <CONFIG>  Path to a JSON frontend options file",
      "",
      "Options:",
      "  -j, --json    Print JSON instead of a formatted report",
      "  -s, --strict  Fail when any configured output path is unused",
      "  -h, --help    Print help"]
  | .help =>
    ["Print this message or the help of the given subcommand(s)",
      "",
      "Usage: frontend-options help [COMMAND]...",
      "",
      "Arguments:",
      "  [COMMAND]...  Print help for the subcommand(s)"]

/-- The text of a help page. -/
def HelpTopic.text (t : HelpTopic) : String := String.join (t.lines.map (· ++ "\n"))

/-- What the program says about its version. -/
def versionText : String := "frontend-options 0.1.0\n"

end FrontendPolicy
