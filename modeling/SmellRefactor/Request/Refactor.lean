import SmellRefactor.Config.Load
import SmellRefactor.Output.Buffered
import SmellRefactor.Report.Format
import SmellRefactor.Request.Error
import SmellRefactor.Request.Files

/-!
# Refactoring on request

A request to refactor resolves the configuration, reads the workload, runs the strategies and
writes the report, in this order; the first step that fails ends it.  Failed attempts are part of
the report and do not fail the request.
-/

namespace SmellRefactor

/-- What a refactoring is asked to do. -/
structure Settings where
  /-- The file that holds the workload. -/
  input : Path
  /-- The configuration file, if it is not to be looked for. -/
  config : Option Path
  format : Report.Format
  style : Report.Style
  /-- The file for the report, if it is not to be printed. -/
  output : Option Path
  /-- The number of workers, with zero for the configured number. -/
  jobs : Nat
  sequential : Bool
deriving DecidableEq, Repr

namespace Settings

/-- The configuration with the requested way of working. -/
def adjust (s : Settings) (c : Configuration) : Configuration :=
  if s.sequential then { c with parallel := { c.parallel with enabled := false } }
  else if 0 < s.jobs then { c with parallel := c.parallel.withJobs s.jobs }
  else c

/-- The configuration to work with, and what is told while it is looked for. -/
def resolve (s : Settings) (t : FileTree) : Except Error Configuration × List Event :=
  match s.config with
  | some path => ((Config.load t path).map s.adjust, [])
  | none =>
    let (c, told) := Config.searchHere t
    (.ok (s.adjust c), told)

end Settings

/-- The end of a request. -/
structure Conclusion (α : Type) where
  answer : Except RequestError α
  /-- What was printed. -/
  printed : String
  attempts : List Attempt
  events : List Event
  tree : FileTree

/-- A request that ended before any attempt, and left the files alone. -/
def Conclusion.early (error : RequestError) (events : List Event) (tree : FileTree) :
    Conclusion α :=
  ⟨.error error, "", [], events, tree⟩

/-- Writes a report to a file, or gives it for printing. -/
def deliver (s : Settings) (r : Report) (t : FileTree) : Except RequestError String × FileTree :=
  match s.output with
  | none => (.ok (r.render s.format s.style), t)
  | some path =>
    match t.create path with
    | .error error =>
      (.error (.error ["Failed to create output file " ++ path.text] (.system error)), t)
    | .ok (target, t) =>
      match Output.writePieces t target (r.pieces s.format s.style) with
      | (.error error, t) => (.error (.error [] (.system error)), t)
      | (.ok (), t) => (.ok "", t)

/-- Runs a refactoring on a workload and delivers the report.  `told` is what was told before. -/
def refactorWorkload (s : Settings) (refactoring : Refactoring FileTree) (w : Workload)
    (told : List Event) (t : FileTree) : Conclusion Report :=
  let attempted := refactoring.registry.countAttempts w
  let told := told ++
    [.started w.size attempted refactoring.registry.size refactoring.parallel.workers?]
  let run := refactoring.refactorAll w t
  match run.answer with
  | .error error => ⟨.error (.error [] error), "", run.attempts, told ++ run.events, run.world⟩
  | .ok index =>
    let report := Report.ofRun attempted run.left index
    let (delivered, tree) := deliver s report run.world
    { answer := delivered.map fun _ => report
      printed := match delivered with | .ok text => text | .error _ => ""
      attempts := run.attempts
      events := told ++ run.events
      tree := tree }

/-- Carries out a refactoring with tools that `launch` starts. -/
def refactor (launch : Launcher FileTree) (s : Settings) (t : FileTree) : Conclusion Report :=
  match s.resolve t with
  | (.error error, told) => .early (.error [] error) told t
  | (.ok c, told) =>
    match c.refactoring launch with
    | .error issue => .early (.error [] (.configuration (.entry issue))) told t
    | .ok refactoring =>
      let told := told ++ if refactoring.registry.isEmpty then [.noStrategies] else []
      match loadWorkload t s.input with
      | .error error =>
        .early (.error ["Failed to load methods from " ++ s.input.text] error) told t
      | .ok w => refactorWorkload s refactoring w told t

end SmellRefactor
