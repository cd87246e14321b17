import Stylesheet.Command.Report
import Stylesheet.Command.Switch

/-!
The pages of the command line: how a command is called and what its help says.
-/

namespace Stylesheet.Command

structure Page where
  path : String
  arguments : String
  /-- The help below the first line. -/
  lines : List String

namespace Page

def usage (page : Page) : Text :=
  "Usage: ".toList ++ page.path.toList ++ [' '] ++ page.arguments.toList

def help (page : Page) : Report :=
  .success [page.usage ++ page.lines.flatMap fun line => '\n' :: line.toList] []

def refuse (page : Page) (message : Text) : Report where
  exit := 2
  out := []
  err :=
    echo (page.usage ++ "\nTry '".toList ++ page.path.toList ++ " --help' for help.\n".toList) ++
      errorLine message

/-- A fault in the options. Only an unknown option brings up how to call the command. -/
def refuseSwitch (page : Page) : SwitchFault → Report
  | .unknown option => page.refuse ("No such option: ".toList ++ option)
  | .missingValue option =>
    ⟨2, [], errorLine ("Option ".toList ++ option.quoted ++ " requires an argument.".toList)⟩
  | .unexpectedValue option =>
    ⟨2, [], errorLine ("Option ".toList ++ option.quoted ++ " does not take a value.".toList)⟩

def main : Page where
  path := "stylemacro"
  arguments := "[OPTIONS] COMMAND [ARGS]..."
  lines :=
    ["",
     "  stylemacro - macro expansion and nested-CSS flattening.",
     "",
     "Options:",
     "  --version      Show the version and exit.",
     "  -v, --verbose  Log debug output to stderr",
     "  --help         Show this message and exit.",
     "",
     "Commands:",
     "  beautify  Print STYLESHEET with one declaration per line.",
     "  expand    Expand macros in SOURCE and print the result.",
     "  inspect   Expand and lex STYLESHEET, then display its node tree."]

def expand : Page where
  path := "stylemacro expand"
  arguments := "[OPTIONS] SOURCE"
  lines :=
    ["",
     "  Expand macros in SOURCE and print the result.",
     "",
     "  CSS output is denested into flat rule sets unless --no-denest is given.",
     "",
     "Options:",
     "  --language [css|js]     Builtin set to expand with  [default: css]",
     "  --denest / --no-denest  Flatten nested CSS rule sets",
     "  -D, --define TEXT       Global variable as NAME=VALUE",
     "  --max-depth INTEGER     Macro recursion limit",
     "  --help                  Show this message and exit."]

def inspect : Page where
  path := "stylemacro inspect"
  arguments := "[OPTIONS] STYLESHEET"
  lines :=
    ["",
     "  Expand and lex STYLESHEET, then display its node tree.",
     "",
     "Options:",
     "  --raw   Lex without expanding macros first",
     "  --help  Show this message and exit."]

def beautify : Page where
  path := "stylemacro beautify"
  arguments := "[OPTIONS] STYLESHEET"
  lines :=
    ["",
     "  Print STYLESHEET with one declaration per line.",
     "",
     "Options:",
     "  --help  Show this message and exit."]

end Page

end Stylesheet.Command
