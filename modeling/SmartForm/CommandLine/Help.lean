import SmartForm.CommandLine.Invocation

/-!
# Help

What is shown to somebody who asks for help or for the version, or who gives a
command line that cannot be carried out.
-/

namespace SmartForm

namespace Invocation

/-- The name of the program with its version. -/
def versionText : String := Settings.mainName ++ " 0.1.0"

/-- What may stand on a command line. -/
def helpText : String :=
  "\n".intercalate
    ["Schema-driven forms and smart search over local catalogs", "",
     "Usage: " ++ Settings.mainName ++ " [OPTIONS] <COMMAND>", "",
     "Commands:",
     "  inspect <SCHEMA> [--set <KEY=VALUE>]...  Fill in the form of a schema and show it",
     "  parse --source <KEY> <QUERY>...          Show the filters of a query",
     "  search --source <KEY> <QUERY>...         Carry a query out",
     "  help                                     Show this text", "",
     "Options:",
     "  -c, --config <PATH>      The main file of the settings [default: "
      ++ defaultConfig ++ "]",
     "      --debounce-ms <MS>   The quiet time before a search",
     "      --timeout-ms <MS>    The longest time of a load or a search",
     "  -h, --help               Show this text",
     "  -V, --version            Show the version"]

/-- What is shown instead of a report, and whether it was asked for. -/
def answerTo (flaw : UsageFlaw) : String × Bool :=
  match flaw with
  | .help => (helpText, true)
  | .version => (versionText, true)
  | .nothingGiven => (helpText, false)
  | flaw => ("error: " ++ flaw.message, false)

end Invocation

end SmartForm
