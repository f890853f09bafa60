import SmellRefactor.Decimal.Numeral
import SmellRefactor.Report.Basic

/-!
# Reports for a terminal

The numbers, and then the failed methods under the names of their smells and files.  A text may be
shown in a style: a code starts it and another code ends it, and where the text itself ends styles
the style is started again.  The two codes are written as pieces of their own, since a buffer that
the pieces go through can part them from the text.
-/

namespace SmellRefactor.Report

open Decimal (naturalText)

/-- Whether the terminal shows colours. -/
inductive Style where
  | plain
  | colored
deriving DecidableEq, Repr, Inhabited

/-- The code that ends every style. -/
def styleEnd : List Char := ['\x1b', '[', '0', 'm']

/-- The code that starts a style. -/
def styleStart (codes : String) : List Char := '\x1b' :: '[' :: (codes.toList ++ ['m'])

/-- Starts the style again wherever the text itself ends styles. -/
def resume (codes : String) : List Char → List Char
  | '\x1b' :: '[' :: '0' :: 'm' :: rest => styleEnd ++ styleStart codes ++ resume codes rest
  | c :: rest => c :: resume codes rest
  | [] => []

/-- The pieces in which a text in a style is written. -/
def Style.paint (style : Style) (codes : String) (text : String) : List String :=
  match style with
  | plain => [text]
  | colored =>
    [String.ofList (styleStart codes), String.ofList (resume codes text.toList),
      String.ofList styleEnd]

/-- The title and the numbers. -/
def terminalSummary (style : Style) (s : Summary) : List String :=
  style.paint "1;34" "Refactoring Report" ++
    ["\n", "  ", naturalText s.files, " files, ", naturalText s.methods, " methods, ",
      naturalText s.attempted, " attempted\n", "  "] ++
    style.paint "32" "resolved:" ++ [" ", naturalText s.resolved, "   "] ++
    style.paint "31" "failed:" ++ [" ", naturalText s.failed, "\n"]

/-- One row of the failure index. -/
def terminalRow (style : Style) (row : String × Path × List Method) : List String :=
  ["\n"] ++ style.paint "1;33" row.1 ++ [" ", row.2.1.text, "\n"] ++
    row.2.2.flatMap fun m => ["  "] ++ style.paint "31" "✗" ++ [" ", m.name, "\n"]

/-- The report for a terminal. -/
def terminalPieces (style : Style) (r : Report) : List String :=
  terminalSummary style r.summary ++ r.failures.rows.flatMap (terminalRow style)

end SmellRefactor.Report
