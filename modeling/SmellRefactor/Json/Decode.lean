import SmellRefactor.Config.Basic
import SmellRefactor.Json.Reader
import SmellRefactor.Report.Basic

/-!
# The program's values in JSON: reading

Methods, workloads, failure indices, reports and configurations as readers.  Where a key of an
object with free keys is repeated, the last value counts.  An index that is read keeps its empty
lists and empty groups.
-/

namespace SmellRefactor.Json

/-- A field whose value is stored as it was read. -/
def Field.plain {π α : Type} (name : String) (get : π → Option α) (set : π → α → π)
    (item : Reader α) (optional : Bool) : Field π where
  name := name
  isSet built := (get built).isSome
  read built c := (item c).map fun (a, c) => (set built a, c)
  optional := optional

/-- The value of a field that must be there. -/
def required {α : Type} (name : String) : Option α → Except String α
  | some a => .ok a
  | none => .error name

/-- A method under construction. -/
structure MethodDraft where
  name : Option String
  smells : Option (List CodeSmell)

/-- A method: its name, and its smells if it has any. -/
def methodShape : Shape MethodDraft Method where
  label := "MethodModel"
  fields :=
    [ .plain "name" (·.name) (fun d a => { d with name := some a }) readString false,
      .plain "code_smells" (·.smells) (fun d a => { d with smells := some a })
        (readList readSmell) true ]
  blank := ⟨none, none⟩
  finish d := do
    let name ← required "name" d.name
    return ⟨name, d.smells.getD []⟩

/-- Reads a method. -/
def readMethod : Reader Method := methodShape.read

/-- The keys of an object taken as paths. -/
def asPaths {α : Type} (members : List (String × α)) : List (Path × α) :=
  members.map fun e => (⟨e.1⟩, e.2)

/-- Reads lists of methods by path, in the order of the text. -/
def readFiles : Reader (List (Path × List Method)) := fun c =>
  (readObject (readList readMethod) c).map fun (members, c) => (asPaths members, c)

/-- Reads a workload. -/
def readWorkload : Reader Workload := fun c =>
  (readFiles c).map fun (files, c) => (.ofList files, c)

/-- Reads lists of methods by path, sorted. -/
def readMethodTable : Reader (OrderedMap Path (List Method)) := fun c =>
  (readFiles c).map fun (files, c) => (.ofList files, c)

/-- Reads a failure index. -/
def readIndex : Reader FailureIndex := fun c =>
  (readObject readMethodTable c).map fun (members, c) => (⟨.ofList members⟩, c)

/-- A summary under construction. -/
structure SummaryDraft where
  files : Option Nat
  methods : Option Nat
  attempted : Option Nat
  resolved : Option Nat
  failed : Option Nat

/-- The numbers of a report. -/
def summaryShape : Shape SummaryDraft Summary where
  label := "ReportSummary"
  fields :=
    [ .plain "files" (·.files) (fun d a => { d with files := some a }) readCount false,
      .plain "methods" (·.methods) (fun d a => { d with methods := some a }) readCount false,
      .plain "attempted" (·.attempted) (fun d a => { d with attempted := some a }) readCount false,
      .plain "resolved" (·.resolved) (fun d a => { d with resolved := some a }) readCount false,
      .plain "failed" (·.failed) (fun d a => { d with failed := some a }) readCount false ]
  blank := ⟨none, none, none, none, none⟩
  finish d := do
    let files ← required "files" d.files
    let methods ← required "methods" d.methods
    let attempted ← required "attempted" d.attempted
    let resolved ← required "resolved" d.resolved
    let failed ← required "failed" d.failed
    return ⟨files, methods, attempted, resolved, failed⟩

/-- A report under construction. -/
structure ReportDraft where
  summary : Option Summary
  failures : Option FailureIndex
  unresolved : Option (OrderedMap Path (List Method))

/-- A report. -/
def reportShape : Shape ReportDraft Report where
  label := "RefactoringReport"
  fields :=
    [ .plain "summary" (·.summary) (fun d a => { d with summary := some a })
        summaryShape.read false,
      .plain "failures" (·.failures) (fun d a => { d with failures := some a }) readIndex false,
      .plain "unresolved" (·.unresolved) (fun d a => { d with unresolved := some a })
        readMethodTable false ]
  blank := ⟨none, none, none⟩
  finish d := do
    let summary ← required "summary" d.summary
    let failures ← required "failures" d.failures
    let unresolved ← required "unresolved" d.unresolved
    return ⟨summary, failures, unresolved⟩

/-- Reads a report. -/
def readReport : Reader Report := reportShape.read

/-- Settings of parallel work under construction. -/
structure ParallelismDraft where
  enabled : Option Bool
  limit : Option (Option Nat)

/-- Settings of parallel work; both fields may be left out. -/
def parallelismShape : Shape ParallelismDraft Parallelism where
  label := "ParallelConfig"
  fields :=
    [ .plain "enabled" (·.enabled) (fun d a => { d with enabled := some a }) readBoolean true,
      .plain "max_concurrency" (·.limit) (fun d a => { d with limit := some a })
        (readOptional readCount) true ]
  blank := ⟨none, none⟩
  finish d := .ok ⟨d.enabled.getD true, d.limit.getD none⟩

/-- A configured tool under construction. -/
structure ToolDraft where
  smell : Option String
  program : Option String
  args : Option (List String)
  name : Option (Option String)

/-- A configured tool; its arguments and its name may be left out. -/
def toolShape : Shape ToolDraft ToolEntry where
  label := "StrategyCommandConfig"
  fields :=
    [ .plain "smell" (·.smell) (fun d a => { d with smell := some a }) readString false,
      .plain "program" (·.program) (fun d a => { d with program := some a }) readString false,
      .plain "args" (·.args) (fun d a => { d with args := some a }) (readList readString) true,
      .plain "name" (·.name) (fun d a => { d with name := some a })
        (readOptional readString) true ]
  blank := ⟨none, none, none, none⟩
  finish d := do
    let smell ← required "smell" d.smell
    let program ← required "program" d.program
    return ⟨smell, program, d.args.getD [], d.name.getD none⟩

/-- A configuration under construction. -/
structure ConfigurationDraft where
  parallel : Option Parallelism
  strategies : Option (List ToolEntry)

/-- A configuration; both fields may be left out. -/
def configurationShape : Shape ConfigurationDraft Configuration where
  label := "SmellfixConfig"
  fields :=
    [ .plain "parallel" (·.parallel) (fun d a => { d with parallel := some a })
        parallelismShape.read true,
      .plain "strategies" (·.strategies) (fun d a => { d with strategies := some a })
        (readList toolShape.read) true ]
  blank := ⟨none, none⟩
  finish d := .ok ⟨d.parallel.getD .standard, d.strategies.getD []⟩

/-- The smell that a text describes. -/
def smellOfText (text : String) : Except Error CodeSmell := readDocument readSmell text

/-- The method that a text describes. -/
def methodOfText (text : String) : Except Error Method := readDocument readMethod text

/-- The workload that a text describes. -/
def workloadOfText (text : String) : Except Error Workload := readDocument readWorkload text

/-- The failure index that a text describes. -/
def indexOfText (text : String) : Except Error FailureIndex := readDocument readIndex text

/-- The report that a text describes. -/
def reportOfText (text : String) : Except Error Report := readDocument readReport text

/-- The configuration that a text describes, unchecked. -/
def configurationOfText (text : String) : Except Error Configuration :=
  readDocument configurationShape.read text

end SmellRefactor.Json
