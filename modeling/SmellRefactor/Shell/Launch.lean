import SmellRefactor.Shell.Evaluate
import SmellRefactor.Strategy.Tool

/-!
# Starting programs

Runs a program of a file tree to its end.  What it did to the files stays, and what it wrote to its
error output is kept.  This is one way of starting tools, which stands in for the system on which
they run; what is proved about a run holds for every other way as well.
-/

namespace SmellRefactor.Shell

/-- How a program ended. -/
def statusOf (flow : Flow) (m : Machine) : ExitStatus :=
  match flow with
  | .killed signal => .signal (if signal = 0 then 9 else signal)
  | flow => .code (endStatus flow m)

/-- Starts a program with arguments and waits for its end. -/
def launch : Launcher FileTree := fun program args tree =>
  if (program :: args).any fun text => text.contains '\x00' then (.error .nulInArgument, tree)
  else
    let name := encoded program
    match startProgram fuelLimit name (args.map encoded) (.start tree name []) with
    | .error e => (.error e, tree)
    | .ok (flow, m) =>
      (.ok ⟨statusOf flow m, m.complaint⟩, { m.tree with current := tree.current })

end SmellRefactor.Shell
