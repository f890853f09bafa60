import SmellRefactor.Config.Basic
import SmellRefactor.Json.Document
import SmellRefactor.Report.Basic

/-!
# The program's values in JSON: writing

Every value as a document.  Fields are always written, but for the name of a configured tool, which
is left out when there is none.
-/

namespace SmellRefactor.Json

/-- A smell is written as its key. -/
def smellDocument (smell : CodeSmell) : Document := .text smell.key

/-- A method as a document. -/
def methodDocument (m : Method) : Document :=
  .object [("name", .text m.name), ("code_smells", .list (m.smells.map smellDocument))]

/-- Lists of methods by path as a document. -/
def filesDocument (files : List (Path × List Method)) : Document :=
  .object (files.map fun e => (e.1.text, .list (e.2.map methodDocument)))

/-- A failure index as a document. -/
def indexDocument (index : FailureIndex) : Document :=
  .object (index.table.entries.map fun e => (e.1, filesDocument e.2.entries))

/-- The numbers of a report as a document. -/
def summaryDocument (s : Summary) : Document :=
  .object
    [("files", .natural s.files), ("methods", .natural s.methods),
      ("attempted", .natural s.attempted), ("resolved", .natural s.resolved),
      ("failed", .natural s.failed)]

/-- A report as a document. -/
def reportDocument (r : Report) : Document :=
  .object
    [("summary", summaryDocument r.summary), ("failures", indexDocument r.failures),
      ("unresolved", filesDocument r.unresolved.entries)]

/-- Settings of parallel work as a document. -/
def parallelismDocument (p : Parallelism) : Document :=
  .object
    [("enabled", .boolean p.enabled),
      ("max_concurrency", match p.limit with | some n => .natural n | none => .null)]

/-- A configured tool as a document. -/
def toolDocument (entry : ToolEntry) : Document :=
  .object
    ([("smell", .text entry.smell), ("program", .text entry.program),
      ("args", .list (entry.args.map .text))] ++
      entry.name.toList.map fun name => ("name", .text name))

/-- A configuration as a document. -/
def configurationDocument (c : Configuration) : Document :=
  .object
    [("parallel", parallelismDocument c.parallel),
      ("strategies", .list (c.strategies.map toolDocument))]

end SmellRefactor.Json
