import SmellRefactor.Program
import SmellRefactor.Proofs.Map.Lookup
import SmellRefactor.Proofs.Map.Union
import SmellRefactor.Proofs.Failure.Canonical
import SmellRefactor.Proofs.Failure.Records
import SmellRefactor.Proofs.Failure.Reduction
import SmellRefactor.Proofs.Failure.Content
import SmellRefactor.Proofs.Failure.Freezing
import SmellRefactor.Proofs.Text.ByteOrder
import SmellRefactor.Proofs.Failure.Rows
import SmellRefactor.Proofs.Run.Treatment
import SmellRefactor.Proofs.Run.Reference
import SmellRefactor.Proofs.Report.Balance
import SmellRefactor.Proofs.Run.Workers
import SmellRefactor.Proofs.Run.Interleaving
import SmellRefactor.Proofs.Run.SeparateFiles
import SmellRefactor.Proofs.Failure.Recording
import SmellRefactor.Proofs.Failure.Linearization
import SmellRefactor.Proofs.Json.Group
import SmellRefactor.Proofs.Run.Contract
import SmellRefactor.Proofs.Json.RoundTrip
import SmellRefactor.Proofs.Map.Equivalence
import SmellRefactor.Proofs.Failure.Construction
import SmellRefactor.Proofs.Report.Reproducibility
import SmellRefactor.Proofs.Strategy.Registry
import SmellRefactor.Proofs.Config.Tools
import SmellRefactor.Proofs.Config.Acceptance
import SmellRefactor.Proofs.Run.History
import SmellRefactor.Proofs.Run.Tools
import SmellRefactor.Proofs.Path.Ancestors
import SmellRefactor.Proofs.FileTree.Reading
import SmellRefactor.Proofs.Config.Search
import SmellRefactor.Proofs.Config.Nearest
import SmellRefactor.Proofs.Request.Resolution
import SmellRefactor.Proofs.Request.Concurrency
import SmellRefactor.Proofs.Request.Readiness
import SmellRefactor.Proofs.Run.Repetition
import SmellRefactor.Proofs.Run.Parts
import SmellRefactor.Proofs.Failure.Normalization
import SmellRefactor.Proofs.Json.Workload
import SmellRefactor.Proofs.Path.Components
import SmellRefactor.Proofs.Run.Refusal
import SmellRefactor.Proofs.Report.Markdown
import SmellRefactor.Proofs.Failure.Reading
import SmellRefactor.Proofs.FileTree.Appending
import SmellRefactor.Proofs.Output.Buffered
import SmellRefactor.Proofs.Request.Delivery
import SmellRefactor.Proofs.Text.Spelling
import SmellRefactor.Proofs.Smell.Spelling
import SmellRefactor.Proofs.Text.StyleCode
import SmellRefactor.Proofs.Report.Terminal
import SmellRefactor.Proofs.Path.Parent
import SmellRefactor.Proofs.Path.Lineage
import SmellRefactor.Proofs.Json.Configuration
import SmellRefactor.Proofs.Run.Registration
import SmellRefactor.Proofs.Method.Tagging
import SmellRefactor.Main

/-!
# A workload of refactorings

The program is `runProgram`: it reads the words of a command line and a file tree, runs one strategy
for each smell of each method of a workload, and reports which methods have failed.  It takes the
way in which tools are started as a parameter, and the modules under `SmellRefactor.Proofs` hold for
every way of starting them.

The modules under `SmellRefactor.Shell` are no part of the program, and nothing is proved about
them.  They stand in for the system on which tools run: a shell with a few usual commands on a file
tree.  Only `SmellRefactor.Main`, which gives the program a system to run on, imports them.
-/
