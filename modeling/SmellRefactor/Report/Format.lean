import SmellRefactor.Json.Encode
import SmellRefactor.Report.Markdown
import SmellRefactor.Report.Terminal

/-!
# Formats of reports

A report is written as JSON, as Markdown or for a terminal.  Every format gives the pieces of text
that are handed to the output one after another; the report is all of them together.
-/

namespace SmellRefactor.Report

/-- The ways to write a report. -/
inductive Format where
  | json
  | markdown
  | terminal
deriving DecidableEq, Repr, Inhabited

/-- The report as an indented document and a final newline. -/
def jsonPieces (r : Report) : List String := [(Json.reportDocument r).indented, "\n"]

/-- The pieces of a report in a format. -/
def pieces (r : Report) (format : Format) (style : Style) : List String :=
  match format with
  | .json => r.jsonPieces
  | .markdown => r.markdownPieces
  | .terminal => r.terminalPieces style

/-- The text of a report in a format. -/
def render (r : Report) (format : Format) (style : Style) : String :=
  String.join (r.pieces format style)

end SmellRefactor.Report
