import SmellRefactor.Event
import SmellRefactor.Method

/-!
# Strategies

A strategy is a way to take one kind of smell off a method.  An attempt may read and change a world
`σ` outside of the program, such as a file tree; it answers whether the smell is resolved, and an
attempt that breaks down is a fault of its own kind instead of an end of the run.
-/

namespace SmellRefactor

/-- How an attempt broke down. -/
inductive Fault where
  /-- An error: what happened, and the causes beneath it. -/
  | error (what : String) (causes : List String)
  /-- A panic, with the text that it carried if it was a text. -/
  | panic (text : Option String)
deriving DecidableEq, Repr

/-- The wording of a fault. -/
def Fault.reason : Fault → String
  | error what causes => ": ".intercalate (what :: causes)
  | panic (some text) => "panicked: " ++ text
  | panic none => "panicked"

/-- How an attempt ended. -/
inductive Outcome where
  | resolved
  | unresolved
  | fault (fault : Fault)
deriving DecidableEq, Repr

/-- Whether the smell is gone. -/
def Outcome.isResolved : Outcome → Bool
  | resolved => true
  | _ => false

/-- The answer of an attempt, with what it told meanwhile and the world that it left. -/
structure Response (σ : Type) where
  outcome : Outcome
  events : List Event
  world : σ

/-- A way to resolve one kind of smell. -/
structure Strategy (σ : Type) where
  smell : CodeSmell
  name : String
  attempt : Path → Method → σ → Response σ

/-- A strategy as shown in diagnostics. -/
def Strategy.describe (s : Strategy σ) : String :=
  "FnStrategy \x7b smell: " ++ s.smell.label ++ ", name: " ++ Text.quoted s.name ++ ", .. \x7d"

end SmellRefactor
