import SmellRefactor.Decimal.Binary64
import SmellRefactor.Shell.Expression

/-!
# Programs of rules

A program of rules works on the records of its input.  Each rule has a guard, which chooses records,
and statements that are run for the records that are chosen.
-/

namespace SmellRefactor.Shell.Rules

open Decimal

/-- What a name stands for: a variable of the whole program, or one of a function, by its place. -/
inductive Name where
  | shared (name : String)
  | own (place : Nat)
deriving DecidableEq, Repr, Inhabited

/-- An operation on two numbers. -/
inductive Operator where
  | add
  | subtract
  | multiply
  | divide
  | remainder
  | power
deriving DecidableEq, Repr

/-- How two values are compared. -/
inductive Comparison where
  | less
  | atMost
  | equal
  | different
  | atLeast
  | greater
deriving DecidableEq, Repr

namespace Comparison

/-- Whether a comparison holds of two values with some order. -/
def holds : Comparison → Ordering → Bool
  | less, o => o == .lt
  | atMost, o => o != .gt
  | equal, o => o == .eq
  | different, o => o != .eq
  | atLeast, o => o != .lt
  | greater, o => o == .gt

end Comparison

/-- The functions that every program has and that take nothing but values. -/
inductive Operation where
  | length
  | part
  | index
  | layout
  | lower
  | upper
  | whole
  | root
  | exponential
  | logarithm
  | sine
  | cosine
  | angle
  | random
  | seed
  | time
  | run
  | close
  | flush
deriving DecidableEq, Repr

namespace Operation

/-- The names of the functions, with the least and the greatest number of their arguments. -/
def table : List (String × Operation × Nat × Nat) :=
  [("length", length, 0, 1), ("substr", part, 2, 3), ("index", index, 2, 2),
    ("sprintf", layout, 1, 255), ("tolower", lower, 1, 1), ("toupper", upper, 1, 1),
    ("int", whole, 1, 1), ("sqrt", root, 1, 1), ("exp", exponential, 1, 1),
    ("log", logarithm, 1, 1), ("sin", sine, 1, 1), ("cos", cosine, 1, 1), ("atan2", angle, 2, 2),
    ("rand", random, 0, 0), ("srand", seed, 0, 1), ("systime", time, 0, 0), ("system", run, 1, 1),
    ("close", close, 1, 1), ("fflush", flush, 0, 1)]

end Operation

mutual

/-- What can be given a value. -/
inductive Place where
  | named (name : Name)
  | field (number : Term)
  | element (table : Name) (keys : List Term)

/-- What has a value. -/
inductive Term where
  | number (x : Binary64)
  | text (s : String)
  /-- An expression that is looked for in the record, unless it stands where one is asked for. -/
  | pattern (e : Expression)
  | grouped (t : Term)
  | place (p : Place)
  | assign (p : Place) (operator : Option Operator) (value : Term)
  /-- A place is raised or lowered by one; the value is the one before or the one behind that. -/
  | count (p : Place) (up first : Bool)
  | negate (t : Term)
  | toNumber (t : Term)
  | deny (t : Term)
  | compute (operator : Operator) (a b : Term)
  | compare (comparison : Comparison) (a b : Term)
  | join (a b : Term)
  | fits (negated : Bool) (a b : Term)
  | both (a b : Term)
  | either (a b : Term)
  | choose (condition yes no : Term)
  | member (keys : List Term) (table : Name)
  | call (function : String) (args : List Term)
  | apply (operation : Operation) (args : List Term)
  | find (text pattern : Term)
  | divide (text : Term) (table : Name) (separator : Option Term)
  | replace (all : Bool) (pattern text : Term) (target : Option Place)
  /-- The next record of the input. -/
  | next (target : Option Place)
  /-- The next record of a file. -/
  | nextOf (path : Term) (target : Option Place)
  /-- The next record of what a command prints. -/
  | nextFrom (command : Term) (target : Option Place)

end

instance : Inhabited Term := ⟨.text ""⟩

instance : Inhabited Place := ⟨.named default⟩

/-- Where something is printed to. -/
inductive Sink where
  | replacing
  | behind
  | command
deriving DecidableEq, Repr

/-- What is done. -/
inductive Statement where
  | nothing
  | term (t : Term)
  | print (items : List Term) (target : Option (Sink × Term))
  | printLaidOut (items : List Term) (target : Option (Sink × Term))
  | block (body : List Statement)
  | branch (condition : Term) (yes no : Statement)
  /-- As long as a condition holds, which is not asked the first time if `asked` is false. -/
  | loop (asked : Bool) (condition : Option Term) (step body : Statement)
  | each (name table : Name) (body : Statement)
  | leave
  | again
  | nextRecord
  | nextFile
  | quit (status : Option Term)
  | give (value : Option Term)
  | erase (table : Name) (keys : Option (List Term))

instance : Inhabited Statement := ⟨.nothing⟩

/-- Which records a rule is for. -/
inductive Guard where
  /-- Before all records. -/
  | first
  /-- Behind all records. -/
  | last
  | always
  | condition (t : Term)
  /-- From a record for which something holds to one for which something else does. -/
  | range (start stop : Term)

/-- What is done for which records. -/
structure Rule where
  guard : Guard
  body : Statement

/-- A function of a program. -/
structure Function where
  name : String
  parameters : Nat
  body : Statement

/-- A program of rules. -/
structure Program where
  rules : List Rule
  functions : List Function

end SmellRefactor.Shell.Rules
