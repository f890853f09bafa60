import SmellRefactor.CommandLine.Argument
import SmellRefactor.Text.ControlSequence

/-!
# Help

The pages that explain the command line, and what is said when no request comes out of it.
-/

namespace SmellRefactor.CommandLine

/-- The name and the number of the program. -/
def versionText : String := "smellfix 0.1.0\n"

/-- What the program is for and which commands it has. -/
def programHelp : String :=
  "Apply refactoring strategies to methods with detected code smells\n\n" ++
  "Usage: smellfix <COMMAND>\n\n" ++
  "Commands:\n" ++
  "  refactor  Run the configured refactoring strategies over a set of methods\n" ++
  "  init      Initialize configuration file\n" ++
  "  help      Print this message or the help of the given subcommand(s)\n\n" ++
  "Options:\n" ++
  "  -h, --help     Print help\n" ++
  "  -V, --version  Print version\n"

/-- The name of an option, which stands out. -/
def literal (name : String) : String :=
  let code (word : String) := Text.escapeCharacter.toString ++ "[" ++ word ++ "m"
  code "1" ++ name ++ code "0"

/-- A text in the column that explains the options. -/
def inColumn (s : String) : String :=
  s.replace "\n" ("\n" ++ String.ofList (List.replicate 25 ' '))

/-- The arguments of a refactoring; `jobs?` is the number of workers in the environment.  The names
behind that number stand out, since it may hold the beginning of a control sequence. -/
def refactorHelp (jobs? : Option String) : String :=
  "Run the configured refactoring strategies over a set of methods\n\n" ++
  "Usage: smellfix refactor [OPTIONS] <INPUT>\n\n" ++
  "Arguments:\n" ++
  "  <INPUT>  JSON file mapping each source path to its methods and smells\n\n" ++
  "Options:\n" ++
  "  -c, --config <CONFIG>  Configuration file (defaults to the nearest .smellfix.toml)\n" ++
  "  -f, --format <FORMAT>  Output format [default: terminal] " ++
  "[possible values: json, markdown, terminal]\n" ++
  "  -o, --output <OUTPUT>  Output file (defaults to stdout)\n" ++
  "  -j, --jobs <JOBS>      Number of worker threads (0 = all cores) [env: SMELLFIX_JOBS=" ++
  inColumn (jobs?.getD "") ++ "] [default: 0]\n" ++
  "      " ++ literal "--no-parallel" ++ "      Process methods and files sequentially\n" ++
  "  " ++ literal "-v" ++ ", " ++ literal "--verbose" ++
  "...       Increase verbosity level (can be repeated: -v, -vv, -vvv)\n" ++
  "  " ++ literal "-h" ++ ", " ++ literal "--help" ++ "             Print help\n"

/-- The arguments for a first configuration file. -/
def initHelp : String :=
  "Initialize configuration file\n\n" ++
  "Usage: smellfix init [OPTIONS]\n\n" ++
  "Options:\n" ++
  "  -f, --force  Force overwrite existing config\n" ++
  "  -h, --help   Print help\n"

/-- The arguments of the command for help. -/
def helpHelp : String :=
  "Print this message or the help of the given subcommand(s)\n\n" ++
  "Usage: smellfix help [COMMAND]...\n\n" ++
  "Arguments:\n" ++
  "  [COMMAND]...  Print help for the subcommand(s)\n"

/-- The text of a page. -/
def Page.text (jobs? : Option String) : Page → String
  | program => programHelp
  | refactor => refactorHelp jobs?
  | init => initHelp
  | help => helpHelp

namespace Stop

/-- Whether the user got what was asked for. -/
def isAnswer : Stop → Bool
  | help _ | version => true
  | _ => false

/-- The status with which the program ends. -/
def exitCode (s : Stop) : Nat := if s.isAnswer then 0 else 2

/-- What is said, with its control sequences. -/
def styled (jobs? : Option String) : Stop → String
  | help page => page.text jobs?
  | version => versionText
  | noCommand => programHelp
  | unknownArgument => "error: unexpected argument found\n"
  | unknownCommand => "error: unrecognized subcommand\n"
  | invalidValue => "error: a value is invalid or missing\n"
  | invalidNumber => "error: invalid value for '--jobs <JOBS>'\n"
  | repeated => "error: an argument cannot be used multiple times\n"
  | unexpectedValue => "error: unexpected value for a flag\n"
  | missingInput => "error: the following required arguments were not provided:\n  <INPUT>\n"

/-- What is said. -/
def message (jobs? : Option String) (s : Stop) : String := Text.plain (s.styled jobs?)

/-- What is printed. -/
def printed (jobs? : Option String) (s : Stop) : String := Text.streamed (s.styled jobs?)

end Stop

/-- What is logged at a level of detail. -/
def logFilter : Nat → String
  | 0 => "warn"
  | 1 => "info"
  | 2 => "debug"
  | _ => "trace"

end SmellRefactor.CommandLine
