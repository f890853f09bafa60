import SmellRefactor.Error

/-!
# Errors of requests

Why a whole request was not carried out.  There are one or more messages, the outermost first;
the inner ones tell the cause.
-/

namespace SmellRefactor

/-- Why a request was not carried out. -/
inductive RequestError where
  /-- The request was turned down. -/
  | declined (text : String)
  /-- Something went wrong: what was being done, outermost first, and the error. -/
  | error (doing : List String) (error : Error)
deriving DecidableEq, Repr

namespace RequestError

/-- The messages, outermost first. -/
def chain : RequestError → List String
  | declined text => [text]
  | error doing e => doing ++ e.chain

/-- The messages on one line. -/
def message (e : RequestError) : String := ": ".intercalate e.chain

/-- A text whose further lines begin with so many blanks. -/
def hanging (indent : Nat) (text : String) : String :=
  text.replace "\n" ("\n" ++ String.ofList (List.replicate indent ' '))

/-- A number at the end of a column that is five characters wide. -/
def inMargin (n : Nat) : String :=
  let digits := toString n
  String.ofList (List.replicate (5 - digits.length) ' ') ++ digits

/-- The causes with their numbers, each on a line of its own. -/
def numbered (causes : List String) : String :=
  String.join (causes.mapIdx fun i cause => inMargin i ++ ": " ++ hanging 7 cause ++ "\n")

/-- How it is shown to the user. -/
def display (e : RequestError) : String :=
  match e.chain with
  | [] => "Error: \n"
  | [what] => "Error: " ++ what ++ "\n"
  | [what, cause] => "Error: " ++ what ++ "\n\nCaused by:\n    " ++ hanging 4 cause ++ "\n"
  | what :: causes => "Error: " ++ what ++ "\n\nCaused by:\n" ++ numbered causes

end RequestError

end SmellRefactor
