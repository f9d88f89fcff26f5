import Stencil.CommandLine.Words

/-!
What the program says about itself. The texts are set for lines of eighty columns.
-/

namespace Stencil.CommandLine

def program : String := "tokscan"

def versionText : String := program ++ " 0.1.0\n"

def usage : String :=
  "usage: " ++ program ++ " [-h] [--text TEXT] [--var KEY=VALUE] [--vars-file VARS_FILE]\n" ++
  "               [--no-vars] [--enable-default-value] [--separator SEPARATOR]\n" ++
  "               [--open OPEN] [--close CLOSE] [--include] [-V]\n"

def help : String :=
  usage ++
  "\nSubstitute delimited placeholders in text.\n" ++
  "\noptions:\n" ++
  "  -h, --help            show this help message and exit\n" ++
  "  --text TEXT           Input text (alternative to stdin) (default: None)\n" ++
  "  --var KEY=VALUE       Define a variable (repeatable) (default: [])\n" ++
  "  --vars-file VARS_FILE\n" ++
  "                        JSON file of variables (default: None)\n" ++
  "  --no-vars             Leave every variable placeholder untouched (default:\n" ++
  "                        False)\n" ++
  "  --enable-default-value\n" ++
  "                        Allow $\x7bkey:default\x7d placeholders (default: None)\n" ++
  "  --separator SEPARATOR\n" ++
  "                        Key/default value separator (default: None)\n" ++
  "  --open OPEN           Marker opening a placeholder (default: None)\n" ++
  "  --close CLOSE         Marker closing a placeholder (default: None)\n" ++
  "  --include             Replace %\x7bpath\x7d spans with file contents after\n" ++
  "                        substitution (default: False)\n" ++
  "  -V, --version         show program's version number and exit\n"

def UsageError.complaint (error : UsageError) : String :=
  usage ++ program ++ ": error: " ++ error.message ++ "\n"

end Stencil.CommandLine
