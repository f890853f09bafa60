import SmellRefactor.Strategy.Registry
import SmellRefactor.Text.Blank
import SmellRefactor.Text.Utf8

/-!
# External tools

A tool is a program that resolves a smell.  It is called with its own arguments, the path of the
file and the name of the method, in this order.  It has done its work when it exits with status
zero; a program that cannot be started is a fault.
-/

namespace SmellRefactor

/-- How a program ended. -/
inductive ExitStatus where
  | code (number : Nat)
  | signal (number : Nat)
deriving DecidableEq, Repr

namespace ExitStatus

/-- The names of signals. -/
def signalNames : List (Nat × String) :=
  [(1, "SIGHUP"), (2, "SIGINT"), (3, "SIGQUIT"), (4, "SIGILL"), (5, "SIGTRAP"), (6, "SIGABRT"),
    (7, "SIGBUS"), (8, "SIGFPE"), (9, "SIGKILL"), (10, "SIGUSR1"), (11, "SIGSEGV"),
    (12, "SIGUSR2"), (13, "SIGPIPE"), (14, "SIGALRM"), (15, "SIGTERM"), (16, "SIGSTKFLT"),
    (24, "SIGXCPU"), (25, "SIGXFSZ"), (26, "SIGVTALRM"), (27, "SIGPROF"), (29, "SIGIO"),
    (30, "SIGPWR"), (31, "SIGSYS")]

/-- Whether the program succeeded. -/
def isSuccess : ExitStatus → Bool
  | code 0 => true
  | _ => false

/-- The wording of a status. -/
def message : ExitStatus → String
  | code number => "exit status: " ++ toString number
  | signal number =>
    "signal: " ++ toString number ++
      match signalNames.find? fun entry => entry.1 == number with
      | some (_, name) => " (" ++ name ++ ")"
      | none => ""

end ExitStatus

/-- What is known of a program that has run. -/
structure Exit where
  status : ExitStatus
  /-- What it wrote to its error output. -/
  complaint : ByteArray

/-- Starts a program with arguments in a world and waits for its end. -/
abbrev Launcher (σ : Type) := String → List String → σ → Except SystemError Exit × σ

/-- A program that resolves a smell. -/
structure Tool where
  smell : CodeSmell
  name : String
  program : String
  args : List String
deriving DecidableEq, Repr

namespace Tool

/-- A tool named like its program and without arguments of its own. -/
def ofProgram (smell : CodeSmell) (program : String) : Tool := ⟨smell, program, program, []⟩

/-- The tool with arguments of its own. -/
def withArgs (t : Tool) (args : List String) : Tool := { t with args := args }

/-- The tool with a name of its own. -/
def withName (t : Tool) (name : String) : Tool := { t with name := name }

/-- The tool of a configured entry. -/
def ofEntry (smell : CodeSmell) (entry : ToolEntry) : Tool :=
  let tool := (ofProgram smell entry.program).withArgs entry.args
  match entry.name with
  | some name => tool.withName name
  | none => tool

/-- The arguments for a method of a file. -/
def argumentsFor (t : Tool) (path : Path) (m : Method) : List String :=
  t.args ++ [path.text, m.name]

/-- Said when the program of a tool cannot be started. -/
def startFailure (t : Tool) : String := "Failed to run refactoring tool '" ++ t.program ++ "'"

/-- The event that tells of a tool that did not succeed. -/
def refusal (t : Tool) (m : Method) (exit : Exit) : Event :=
  .toolRefused t.program m.name exit.status.message
    (String.ofList (Text.trim (Text.lenient exit.complaint).toList))

/-- Calls the tool for a method of a file. -/
def attempt {σ : Type} (t : Tool) (launch : Launcher σ) (path : Path) (m : Method) (world : σ) :
    Response σ :=
  match launch t.program (t.argumentsFor path m) world with
  | (.error error, world) => ⟨.fault (.error t.startFailure [error.message]), [], world⟩
  | (.ok exit, world) =>
    if exit.status.isSuccess then ⟨.resolved, [], world⟩
    else ⟨.unresolved, [t.refusal m exit], world⟩

/-- The strategy that calls the tool. -/
def strategy {σ : Type} (t : Tool) (launch : Launcher σ) : Strategy σ :=
  ⟨t.smell, t.name, t.attempt launch⟩

/-- A tool as shown in diagnostics. -/
def describe (t : Tool) : String :=
  "CommandStrategy \x7b smell: " ++ t.smell.label ++ ", name: " ++ Text.quoted t.name ++
    ", program: " ++ Text.quoted t.program ++ ", args: " ++ Text.quotedList t.args ++ " \x7d"

end Tool

end SmellRefactor
