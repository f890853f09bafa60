import SmellRefactor.Run
import SmellRefactor.Toml.Decode
import SmellRefactor.Strategy.Tool

/-!
# The registry of a configuration

Every configured entry becomes a tool.  The entries are checked in order, and each of them first for
a known smell, then for a program that is not blank, then for a smell that no earlier entry has.
-/

namespace SmellRefactor

/-- The smell that an entry is for. -/
def ToolEntry.smell? (entry : ToolEntry) : Except Config.EntryIssue CodeSmell :=
  match CodeSmell.ofText? entry.smell with
  | some smell => .ok smell
  | none => .error (.unknownSmell entry.smell)

/-- Whether a text has nothing but white space. -/
def isBlankText (text : String) : Bool := (Text.trim text.toList).isEmpty

/-- The tool of an entry. -/
def ToolEntry.tool? (entry : ToolEntry) : Except Config.EntryIssue Tool := do
  let smell ← entry.smell?
  if isBlankText entry.program then .error (.blankProgram smell) else .ok (.ofEntry smell entry)

namespace Registry

variable {σ : Type}

/-- Registers the tools of entries, one after another. -/
def addEntries (launch : Launcher σ) :
    List ToolEntry → Registry σ → Except Config.EntryIssue (Registry σ)
  | [], r => .ok r
  | entry :: entries, r => do
    let tool ← entry.tool?
    match r.register (tool.strategy launch) with
    | (some _, _) => .error (.repeatedSmell tool.smell)
    | (none, r) => addEntries launch entries r

end Registry

namespace Configuration

variable {σ : Type}

/-- The registry of the configured tools. -/
def registry (c : Configuration) (launch : Launcher σ) :
    Except Config.EntryIssue (Registry σ) :=
  Registry.addEntries launch c.strategies .empty

/-- The registry of the configured tools with the settings of parallel work. -/
def refactoring (c : Configuration) (launch : Launcher σ) :
    Except Config.EntryIssue (Refactoring σ) :=
  (c.registry launch).map fun r => ⟨r, c.parallel⟩

/-- What is wrong with the entries of a configuration, if anything.  Whether entries are acceptable
does not depend on what their programs would do, so a launcher that starts nothing will do. -/
def check (c : Configuration) : Except Config.EntryIssue Unit :=
  (c.registry fun _ _ (world : Unit) => (.error .notFound, world)).map fun _ => ()

end Configuration

namespace Config

/-- The checked configuration that a text describes. -/
def parse (text : String) : Except Rejection Configuration :=
  match Toml.configurationOfText text with
  | .error error => .error (.unreadable error)
  | .ok c =>
    match c.check with
    | .error issue => .error (.entry issue)
    | .ok () => .ok c

end Config

end SmellRefactor
