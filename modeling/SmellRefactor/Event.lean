import SmellRefactor.Error

/-!
# Events

What is told about a run while it goes on: each attempt, the tools that refused, the configuration
that was found, and the beginning and the end of the run.
-/

namespace SmellRefactor

/-- How much attention an event deserves. -/
inductive Level where
  | debug
  | info
  | warn
deriving DecidableEq, Repr

/-- The name of a level. -/
def Level.label : Level → String
  | debug => "DEBUG"
  | info => "INFO"
  | warn => "WARN"

/-- What happened. -/
inductive Event where
  | applied (path : Path) (method : String) (smell : CodeSmell)
  | unresolved (path : Path) (method : String) (smell : CodeSmell)
  | faulted (path : Path) (method : String) (strategy : String) (reason : String)
  | toolRefused (tool : String) (method : String) (status : String) (complaint : String)
  | noStrategies
  | started (files : Nat) (attempted : Nat) (strategies : Nat) (workers : Option Nat)
  | finished (files : Nat) (failures : Nat)
  | configLoaded (path : Path)
  | configIgnored (path : Path) (rejection : Config.Rejection)
  | configUnreadable (path : Path) (error : SystemError)
  | configMissing (searched : Nat)
  | currentUnknown (error : SystemError)
deriving DecidableEq, Repr

namespace Event

/-- The level of an event. -/
def level : Event → Level
  | applied .. | unresolved .. | toolRefused .. | configLoaded .. | configMissing .. => .debug
  | started .. | finished .. => .info
  | faulted .. | noStrategies | configIgnored .. | configUnreadable .. | currentUnknown .. => .warn

/-- The wording of an event. -/
def message : Event → String
  | applied .. => "Refactoring applied"
  | unresolved .. => "Refactoring failed"
  | faulted _ _ _ reason => "Refactoring strategy fault: " ++ reason
  | toolRefused .. => "Refactoring tool reported failure"
  | noStrategies => "No refactoring strategies configured; nothing will be attempted"
  | started .. => "Starting refactoring"
  | finished .. => "Refactoring finished"
  | configLoaded path => "Loaded config from " ++ path.text
  | configIgnored path rejection =>
    "Ignoring invalid config " ++ path.text ++ ": " ++ rejection.message ++ ". Using defaults."
  | configUnreadable path error =>
    "Failed to read config file " ++ path.text ++ ": " ++ error.message
  | configMissing searched =>
    "No config found after checking " ++ toString searched ++
      " directories. Using default config."
  | currentUnknown error =>
    "Failed to get current directory: " ++ error.message ++ ". Using default config."

end Event

end SmellRefactor
