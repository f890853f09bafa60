import SmellRefactor.CommandLine.Argument

/-!
# Reading command lines

The words of a command line are read from left to right.  The value of an option is settled only
when the next argument comes or the line ends, so a problem with it gives way to a word that has no
meaning at all.
-/

namespace SmellRefactor.CommandLine

/-- What a command accepts. -/
structure Grammar where
  page : Page
  arguments : List Argument
  /-- Whether there is an argument without a name. -/
  takesInput : Bool

namespace Grammar

/-- The argument with a long name. -/
def long? (g : Grammar) (name : String) : Option Argument :=
  g.arguments.find? fun a => a.long? == some name

/-- The argument with a letter. -/
def short? (g : Grammar) (letter : Char) : Option Argument :=
  g.arguments.find? fun a => a.short? == some letter

/-- The arguments of a refactoring. -/
def refactor : Grammar :=
  ⟨.refactor, [.config, .format, .output, .jobs, .noParallel, .verbose, .help], true⟩

/-- The arguments for a first configuration file. -/
def init : Grammar := ⟨.init, [.force, .help], false⟩

/-- The arguments before any command. -/
def program : Grammar := ⟨.program, [.help, .version], false⟩

end Grammar

/-- How far a line has been read. -/
structure Progress where
  collected : Collected
  /-- An argument whose value is not settled yet, with the value if it has come. -/
  pending : Option (Argument × Option String)
  /-- Whether the unnamed argument has come. -/
  inputSeen : Bool
deriving DecidableEq, Repr

namespace Progress

/-- Nothing read yet. -/
def start : Progress := ⟨.empty, none, false⟩

/-- Whether the next word is the value of an option. -/
def wantsValue (p : Progress) : Option Argument :=
  match p.pending with
  | some (a, none) => some a
  | _ => none

/-- Settles the pending value. -/
def settle (p : Progress) : Except Stop Progress :=
  match p.pending with
  | none => .ok p
  | some (_, none) => .error .invalidValue
  | some (a, some value) =>
    (p.collected.store a value).map fun c => { p with collected := c, pending := none }

/-- Begins an option, whose value is still to come. -/
def expect (p : Progress) (a : Argument) : Except Stop Progress := do
  return { (← p.settle) with pending := some (a, none) }

/-- Takes an option together with its value. -/
def attach (p : Progress) (a : Argument) (value : String) : Except Stop Progress := do
  let p ← p.settle
  return { p with collected := ← p.collected.store a value }

/-- Takes a flag. -/
def flag (p : Progress) (page : Page) (a : Argument) : Except Stop Progress := do
  let p ← p.settle
  return { p with collected := ← p.collected.raise page a }

end Progress

/-- Cuts a text at the first equals sign. -/
def cutAtEquals (text : List Char) : String × Option String :=
  match text.dropWhile (· ≠ '=') with
  | [] => (String.ofList text, none)
  | _ :: value => (String.ofList (text.takeWhile (· ≠ '=')), some (String.ofList value))

namespace Grammar

/-- Reads a word that begins with two dashes, which are left out here. -/
def readLong (g : Grammar) (text : List Char) (p : Progress) : Except Stop Progress :=
  let (name, value?) := cutAtEquals text
  match g.long? name with
  | none => .error .unknownArgument
  | some a =>
    match a.takesValue, value? with
    | true, some value => p.attach a value
    | true, none => p.expect a
    | false, some _ => .error .unexpectedValue
    | false, none => p.flag g.page a

/-- Reads the letters behind one dash. -/
def readShort (g : Grammar) : List Char → Progress → Except Stop Progress
  | [], p => .ok p
  | letter :: rest, p =>
    match g.short? letter with
    | none => .error .unknownArgument
    | some a =>
      if a.takesValue then
        match rest with
        | [] => p.expect a
        | '=' :: value => p.attach a (String.ofList value)
        | value => p.attach a (String.ofList value)
      else do
        readShort g rest (← p.flag g.page a)

/-- Reads a word that is not the name of an argument. -/
def readWord (g : Grammar) (word : String) (p : Progress) : Except Stop Progress :=
  if g.takesInput && !p.inputSeen then do
    return { (← p.settle) with pending := some (.input, some word), inputSeen := true }
  else .error .unknownArgument

/-- Reads the words of a line.  Behind a word of two dashes alone no word is the name of an
argument. -/
def read (g : Grammar) : List String → Bool → Progress → Except Stop Progress
  | [], _, p => p.settle
  | word :: words, trailing, p =>
    if trailing then do
      read g words true (← g.readWord word p)
    else match word.toList with
    | ['-', '-'] => read g words true p
    | '-' :: '-' :: text => do
      read g words false (← g.readLong text p)
    | '-' :: letter :: letters => do
      read g words false (← g.readShort (letter :: letters) p)
    | _ =>
      match p.wantsValue with
      | some a => read g words false { p with pending := some (a, some word) }
      | none => do
        read g words false (← g.readWord word p)

end Grammar

/-- What a refactoring is asked for on the command line. -/
structure RefactorOptions where
  input : Path
  config : Option Path
  format : Report.Format
  output : Option Path
  jobs : Nat
  noParallel : Bool
  verbosity : Nat
deriving DecidableEq, Repr

/-- What a command line asks for. -/
inductive Request where
  | refactor (options : RefactorOptions)
  | init (force : Bool)
deriving DecidableEq, Repr

/-- Reads the words behind the command for a refactoring.  `jobs?` is the number of workers that the
environment gives; it counts, and is checked, only where the line gives none. -/
def readRefactor (words : List String) (jobs? : Option String) : Except Stop Request := do
  let c := (← Grammar.refactor.read words false .start).collected
  let jobs ← match c.jobs, jobs? with
    | some jobs, _ => .ok jobs
    | none, some text => jobsOf text
    | none, none => .ok 0
  match c.input with
  | none => .error .missingInput
  | some input =>
    return .refactor
      { input, config := c.config, format := c.format.getD .terminal, output := c.output, jobs,
        noParallel := c.noParallel, verbosity := c.verbosity }

/-- Reads the words behind the command for a first configuration file. -/
def readInit (words : List String) : Except Stop Request := do
  return .init (← Grammar.init.read words false .start).collected.force

/-- The page that the words behind the command for help ask for. -/
def helpPage : List String → Except Stop Page
  | [] => .ok .program
  | ["refactor"] => .ok .refactor
  | ["init"] => .ok .init
  | ["help"] => .ok .help
  | _ => .error .unknownCommand

/-- Whether a word is the name of a command. -/
def isCommand (word : String) : Bool := ["refactor", "init", "help"].contains word

/-- Reads the words of a line from the place where a command is expected.  Behind a word of two
dashes no command is accepted any more. -/
def readCommand (jobs? : Option String) : List String → Bool → Except Stop Request
  | [], _ => .error .noCommand
  | word :: words, trailing =>
    if trailing then .error (if isCommand word then .unknownArgument else .unknownCommand)
    else match word with
    | "refactor" => readRefactor words jobs?
    | "init" => readInit words
    | "help" => do .error (.help (← helpPage words))
    | "--" => readCommand jobs? words true
    | _ =>
      match word.toList with
      | '-' :: '-' :: text => do
        let _ ← Grammar.program.readLong text .start
        readCommand jobs? words false
      | '-' :: letter :: letters => do
        let _ ← Grammar.program.readShort (letter :: letters) .start
        readCommand jobs? words false
      | _ => .error .unknownCommand

/-- The request of a command line, whose first word is the name of the program. -/
def parse (words : List String) (jobs? : Option String) : Except Stop Request :=
  readCommand jobs? words.tail false

end SmellRefactor.CommandLine
