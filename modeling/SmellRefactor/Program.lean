import SmellRefactor.CommandLine.Help
import SmellRefactor.CommandLine.Reader
import SmellRefactor.Request.Refactor
import SmellRefactor.Request.Starter
import SmellRefactor.Config.Load

/-!
# The program

What happens from the command line to the exit status: the request is read and carried out, its
answer is printed, and a failure is shown with its causes.
-/

namespace SmellRefactor

/-- How the program ended. -/
structure Ending where
  exitCode : Nat
  printed : String
  complaint : String
  events : List Event
  tree : FileTree

namespace Ending

/-- The end of a request that may have failed. -/
def ofAnswer (answer : Except RequestError Unit) (printed : String) (events : List Event)
    (tree : FileTree) : Ending :=
  match answer with
  | .ok () => ⟨0, printed, "", events, tree⟩
  | .error failure => ⟨1, printed, failure.display, events, tree⟩

/-- The end of a command line that asks for nothing to be done. -/
def ofStop (stop : CommandLine.Stop) (jobs? : Option String) (tree : FileTree) : Ending :=
  let text := stop.printed jobs?
  if stop.isAnswer then ⟨stop.exitCode, text, "", [], tree⟩ else ⟨stop.exitCode, "", text, [], tree⟩

end Ending

/-- The settings that the options of a command line ask for. -/
def CommandLine.RefactorOptions.settings (o : RefactorOptions) (style : Report.Style) :
    Settings where
  input := o.input
  config := o.config
  format := o.format
  style := style
  output := o.output
  jobs := o.jobs
  sequential := o.noParallel

/-- Carries out a request. -/
def CommandLine.Request.carryOut (launch : Launcher FileTree) (style : Report.Style)
    (tree : FileTree) : Request → Ending
  | .refactor options =>
    let done := SmellRefactor.refactor launch (options.settings style) tree
    .ofAnswer (done.answer.map fun _ => ()) done.printed done.events done.tree
  | .init force =>
    let (answer, tree) := writeStarter tree ⟨Config.fileName⟩ force
    let printed := match answer with
      | .ok () => "Created " ++ Config.fileName ++ " configuration file\n"
      | .error _ => ""
    .ofAnswer answer printed [] tree

/-- Runs the program on the words of a command line.  `jobs?` is the number of workers that the
environment gives. -/
def runProgram (launch : Launcher FileTree) (style : Report.Style) (words : List String)
    (jobs? : Option String) (tree : FileTree) : Ending :=
  match CommandLine.parse words jobs? with
  | .error stop => .ofStop stop jobs? tree
  | .ok request => request.carryOut launch style tree

end SmellRefactor
