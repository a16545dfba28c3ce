/-!
The texts that the command line prints about itself.
-/

set_option autoImplicit false

namespace LeafLayout.Command

def versionText : String :=
  "format-html 0.1.0\n"

def helpLines : List String :=
  ["Command line tool that reflows simple HTML text spans onto their own indented line, in place.",
   "",
   "Usage: format-html [OPTIONS] <FILE_OR_GLOB>...",
   "",
   "Arguments:",
   "  <FILE_OR_GLOB>...  Files or glob patterns to reformat in place",
   "",
   "Options:",
   "      --indent <STRING>  Indentation placed before reflowed text [default: \"  \"]",
   "      --no-collapse      Do not collapse whitespace runs inside reflowed text",
   "      --no-trim          Do not trim reflowed text",
   "      --dry-run          Print the files that would change instead of writing them",
   "  -v, --verbose          Log per-file decisions to stderr",
   "  -h, --help             Print help",
   "  -V, --version          Print version"]

def helpText : String :=
  String.join (helpLines.map (· ++ "\n"))

end LeafLayout.Command
