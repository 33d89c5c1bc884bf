import RoutePattern.Text.Basic

/-!
# Help texts of the command line
-/
namespace RoutePattern.CommandLine

/-- Lines, each with a line end. -/
def lines (texts : List String) : Text := texts.flatMap fun text => text.toList ++ ['\n']

/-- How the program is called. -/
def programUsage : String := "usage: routeurl [-h] \x7bparse,match\x7d ..."

/-- How the command that takes a URL apart is called. -/
def parseUsage : String := "usage: routeurl parse [-h] url"

/-- How the command that matches a path is called. -/
def matchUsage : String :=
  "usage: routeurl match [-h] [--sensitive] [--strict] [--prefix] pattern path"

/-- The help of the program. -/
def programHelp : Text := lines
  [programUsage,
    "",
    "routeurl — route patterns, URL parsing and parameter extraction.",
    "",
    "positional arguments:",
    "  \x7bparse,match\x7d",
    "    parse        Split a URL into its parts",
    "    match        Match a path against a route pattern",
    "",
    "options:",
    "  -h, --help     show this help message and exit"]

/-- The help of the command that takes a URL apart. -/
def parseHelp : Text := lines
  [parseUsage,
    "",
    "positional arguments:",
    "  url         URL to parse",
    "",
    "options:",
    "  -h, --help  show this help message and exit"]

/-- The help of the command that matches a path. -/
def matchHelp : Text := lines
  [matchUsage,
    "",
    "positional arguments:",
    "  pattern      Route pattern (e.g. /users/:id)",
    "  path         Path to match (may carry ?query and #hash)",
    "",
    "options:",
    "  -h, --help   show this help message and exit",
    "  --sensitive  Match literal segments case-sensitively",
    "  --strict     Do not accept an optional trailing slash",
    "  --prefix     Only require the pattern to match a prefix of the path"]

end RoutePattern.CommandLine
