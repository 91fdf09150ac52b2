namespace ErrorOrigins

-- Texts that can be asked for.
inductive Page
  | help
  | summary
  | version
  deriving DecidableEq, Repr, Inhabited

namespace Page

def lines : Page → List String
  | help => [
    "errauditor: where do the errors your Go functions return come from",
    "",
    "Usage: errauditor [OPTIONS] [TARGET]...",
    "",
    "Arguments:",
    "  [TARGET]...",
    "          Files, directories, `dir/...` trees or package paths [default: ./...]",
    "",
    "Options:",
    "      --diagnostics",
    "          Print positioned diagnostics instead of grouped error origins",
    "",
    "      --color <WHEN>",
    "          When to colorize the report",
    "",
    "          Possible values:",
    "          - auto:   Color when stdout is a terminal",
    "          - always",
    "          - never",
    "          ",
    "          [default: auto]",
    "",
    "      --parallel",
    "          Analyze files in parallel; output order is unchanged",
    "",
    "  -e, --exclude <REGEX>",
    "          Skip every file whose directory matches REGEX (repeatable)",
    "",
    "  -h, --help",
    "          Print help (see a summary with '-h')",
    "",
    "  -V, --version",
    "          Print version"]
  | summary => [
    "errauditor: where do the errors your Go functions return come from",
    "",
    "Usage: errauditor [OPTIONS] [TARGET]...",
    "",
    "Arguments:",
    "  [TARGET]...  Files, directories, `dir/...` trees or package paths [default: ./...]",
    "",
    "Options:",
    "      --diagnostics      Print positioned diagnostics instead of grouped error origins",
    "      --color <WHEN>     When to colorize the report [default: auto] [possible values: auto, always, never]",
    "      --parallel         Analyze files in parallel; output order is unchanged",
    "  -e, --exclude <REGEX>  Skip every file whose directory matches REGEX (repeatable)",
    "  -h, --help             Print help (see more with '--help')",
    "  -V, --version          Print version"]
  | version => ["errauditor 0.1.0"]

def text (p : Page) : String :=
  String.join (p.lines.map (· ++ "\n"))

end Page
end ErrorOrigins
