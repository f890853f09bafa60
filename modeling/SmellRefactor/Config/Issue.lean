import SmellRefactor.Path.Basic
import SmellRefactor.Smell
import SmellRefactor.Toml.Error

/-!
# What can be wrong with a configuration

A text may not be readable as a configuration, or one of its tools may not be acceptable; and a
file that holds such a text is an invalid file.
-/

namespace SmellRefactor.Config

/-- What is wrong with a configured tool. -/
inductive EntryIssue where
  | unknownSmell (text : String)
  | blankProgram (smell : CodeSmell)
  | repeatedSmell (smell : CodeSmell)
deriving DecidableEq, Repr

/-- The wording of an issue. -/
def EntryIssue.message : EntryIssue → String
  | unknownSmell text => CodeSmell.unknownMessage text
  | blankProgram smell => "Strategy for '" ++ smell.name ++ "' has an empty program"
  | repeatedSmell smell => "More than one strategy configured for '" ++ smell.name ++ "'"

/-- Why a text is not accepted as a configuration. -/
inductive Rejection where
  /-- The text is not TOML, or its values do not fit. -/
  | unreadable (error : Toml.Error)
  /-- One of its tools is not acceptable. -/
  | entry (issue : EntryIssue)
deriving DecidableEq, Repr

/-- An error of a configuration. -/
inductive Issue where
  | described (text : String)
  | entry (issue : EntryIssue)
  | invalidFile (path : Path) (rejection : Rejection)
deriving DecidableEq, Repr

/-- What precedes the wording of every configuration issue. -/
def issueTitle : String := "Configuration error: "

/-- The wording of a rejection. -/
def Rejection.message : Rejection → String
  | unreadable error => error.display
  | entry issue => issueTitle ++ issue.message

/-- The wording of an issue, without its title. -/
def Issue.message : Issue → String
  | described text => text
  | entry issue => issue.message
  | invalidFile path rejection => "Invalid config " ++ path.text ++ ": " ++ rejection.message

end SmellRefactor.Config
