import SmellRefactor.Decimal.Numeral
import SmellRefactor.Report.Basic

/-!
# Reports in Markdown

A table of the numbers, and then either one line that says that nothing failed or the failed
methods under the headings of their smells.  Names and paths are written as they are.
-/

namespace SmellRefactor.Report

open Decimal (naturalText)

/-- One row of the summary table. -/
def markdownRow (title : String) (n : Nat) : List String :=
  ["| " ++ title ++ " | ", naturalText n, " |\n"]

/-- The heading and the table of numbers. -/
def markdownSummary (s : Summary) : List String :=
  ["# Refactoring Report\n", "\n", "| Metric | Value |\n", "|--------|-------|\n"] ++
    markdownRow "Files" s.files ++ markdownRow "Methods" s.methods ++
    markdownRow "Attempted" s.attempted ++ markdownRow "Resolved" s.resolved ++
    markdownRow "Failed" s.failed ++ ["\n"]

/-- The heading of a smell. -/
def markdownHeading (smell : String) : List String := ["\n", "### ", smell, "\n", "\n"]

/-- One failed method. -/
def markdownBullet (path : Path) (m : Method) : List String :=
  ["- `", m.name, "` in `", path.text, "`\n"]

/-- The rows of a failure index.  A heading is written where a row belongs to another smell than
the row before it. -/
def markdownRows : Option String → List (String × Path × List Method) → List String
  | _, [] => []
  | current, (smell, path, methods) :: rows =>
    (if current = some smell then [] else markdownHeading smell) ++
      methods.flatMap (markdownBullet path) ++ markdownRows (some smell) rows

/-- The failures of a report. -/
def markdownFailures (r : Report) : List String :=
  if r.hasFailures then "## Failed Refactorings\n" :: markdownRows none r.failures.rows
  else ["All attempted refactorings were applied.\n"]

/-- The report in Markdown. -/
def markdownPieces (r : Report) : List String := markdownSummary r.summary ++ markdownFailures r

end SmellRefactor.Report
