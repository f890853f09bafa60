import SmellRefactor.Config.Issue
import SmellRefactor.Json.Error
import SmellRefactor.SystemError

/-!
# Errors

Everything that can go wrong in a request.  An error has a message of its own, and some errors have
a cause beneath them; `Error.chain` lists the messages from the outermost to the innermost.
-/

namespace SmellRefactor

/-- What went wrong. -/
inductive Error where
  | invalidArgument (text : String)
  | configuration (issue : Config.Issue)
  | fileSystem (action : String) (path : Path) (source : SystemError)
  | system (error : SystemError)
  | json (error : Json.Error)
  | toml (error : Toml.Error)
deriving DecidableEq, Repr

namespace Error

/-- The wording of an error. -/
def message : Error → String
  | invalidArgument text => "Invalid argument: " ++ text
  | configuration issue => Config.issueTitle ++ issue.message
  | fileSystem action _ _ => "File system error: " ++ action
  | system error => error.message
  | json error => error.message
  | toml error => error.display

/-- The error of the operating system beneath an error. -/
def source? : Error → Option SystemError
  | fileSystem _ _ source => some source
  | _ => none

/-- Whether an argument was refused. -/
def isInvalidArgument : Error → Bool
  | invalidArgument _ => true
  | _ => false

/-- The messages of an error and of its cause, outermost first. -/
def chain (e : Error) : List String := e.message :: e.source?.toList.map SystemError.message

/-- Said of a path without text where a file is needed. -/
def emptyPath : Error := invalidArgument "path must not be empty"

end Error

/-- The error of a rejected configuration text. -/
def Config.Rejection.error : Config.Rejection → Error
  | unreadable error => .toml error
  | entry issue => .configuration (.entry issue)

end SmellRefactor
