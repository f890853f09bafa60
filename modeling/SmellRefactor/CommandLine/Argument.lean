import SmellRefactor.Decimal.Numeral
import SmellRefactor.Path.Basic
import SmellRefactor.Report.Format

/-!
# Named arguments

The options and flags of the commands, the values that they take, and what has been collected of
them so far.
-/

namespace SmellRefactor.CommandLine

/-- Something that can be given on the command line. -/
inductive Argument where
  /-- The file to work on, the only argument without a name. -/
  | input
  | config
  | format
  | output
  | jobs
  | noParallel
  | verbose
  | force
  | help
  | version
deriving DecidableEq, Repr

namespace Argument

/-- The name behind two dashes. -/
def long? : Argument → Option String
  | input => none
  | config => some "config"
  | format => some "format"
  | output => some "output"
  | jobs => some "jobs"
  | noParallel => some "no-parallel"
  | verbose => some "verbose"
  | force => some "force"
  | help => some "help"
  | version => some "version"

/-- The letter behind one dash. -/
def short? : Argument → Option Char
  | config => some 'c'
  | format | force => some 'f'
  | output => some 'o'
  | jobs => some 'j'
  | verbose => some 'v'
  | help => some 'h'
  | version => some 'V'
  | input | noParallel => none

/-- Whether a value belongs to the argument. -/
def takesValue : Argument → Bool
  | input | config | format | output | jobs => true
  | noParallel | verbose | force | help | version => false

end Argument

/-- The parts of the program that can be asked for help. -/
inductive Page where
  | program
  | refactor
  | init
  | help
deriving DecidableEq, Repr

/-- Why no request came out of a command line. -/
inductive Stop where
  /-- Help was asked for. -/
  | help (page : Page)
  /-- The version was asked for. -/
  | version
  /-- There is no command at all. -/
  | noCommand
  | unknownArgument
  | unknownCommand
  /-- A value that is not acceptable, or that is missing. -/
  | invalidValue
  /-- A value that is not a number. -/
  | invalidNumber
  /-- An argument that may be given only once was given again. -/
  | repeated
  /-- A value was attached to a flag. -/
  | unexpectedValue
  /-- The file to work on is missing. -/
  | missingInput
deriving DecidableEq, Repr

/-- What has been collected. -/
structure Collected where
  input : Option Path
  config : Option Path
  format : Option Report.Format
  output : Option Path
  jobs : Option Nat
  noParallel : Bool
  force : Bool
  verbosity : Nat
deriving DecidableEq, Repr

namespace Collected

/-- Nothing collected yet. -/
def empty : Collected := ⟨none, none, none, none, none, false, false, 0⟩

/-- How far the level of detail is counted. -/
def maxVerbosity : Nat := 255

/-- Whether an argument that may be given once has been given. -/
def has (c : Collected) : Argument → Bool
  | .input => c.input.isSome
  | .config => c.config.isSome
  | .format => c.format.isSome
  | .output => c.output.isSome
  | .jobs => c.jobs.isSome
  | .noParallel => c.noParallel
  | .force => c.force
  | .verbose | .help | .version => false

end Collected

/-- The path that a value names; it must have some text. -/
def pathOf (text : String) : Except Stop Path :=
  if text.isEmpty then .error .invalidValue else .ok ⟨text⟩

/-- The format that a value names. -/
def formatOf (text : String) : Except Stop Report.Format :=
  match text with
  | "json" => .ok .json
  | "markdown" => .ok .markdown
  | "terminal" => .ok .terminal
  | _ => .error .invalidValue

/-- The number of workers that a value names: decimal digits, with a plus sign if one likes, below
`2 ^ 64`. -/
def jobsOf (text : String) : Except Stop Nat :=
  let digits := match text.toList with
    | '+' :: rest => rest
    | other => other
  if digits.isEmpty || !digits.all (Decimal.isDigitOf 10) then .error .invalidNumber
  else
    let n := Decimal.valueOf 10 digits
    if n ≤ Decimal.maxWord then .ok n else .error .invalidNumber

namespace Collected

/-- Takes the value of an argument. -/
def store (c : Collected) (a : Argument) (value : String) : Except Stop Collected :=
  if c.has a then .error .repeated
  else match a with
  | .input => (pathOf value).map fun path => { c with input := some path }
  | .config => (pathOf value).map fun path => { c with config := some path }
  | .output => (pathOf value).map fun path => { c with output := some path }
  | .format => (formatOf value).map fun format => { c with format := some format }
  | .jobs => (jobsOf value).map fun jobs => { c with jobs := some jobs }
  | .noParallel | .verbose | .force | .help | .version => .ok c

/-- Takes a flag; `page` is the help that belongs to the command. -/
def raise (c : Collected) (page : Page) (a : Argument) : Except Stop Collected :=
  if c.has a then .error .repeated
  else match a with
  | .noParallel => .ok { c with noParallel := true }
  | .force => .ok { c with force := true }
  | .verbose => .ok { c with verbosity := min (c.verbosity + 1) maxVerbosity }
  | .help => .error (.help page)
  | .version => .error .version
  | .input | .config | .format | .output | .jobs => .ok c

end Collected

end SmellRefactor.CommandLine
