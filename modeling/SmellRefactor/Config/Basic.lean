/-!
# Configurations

A configuration says whether methods are worked on at the same time and how many at most, and which
external tool is to be run for which smell.
-/

namespace SmellRefactor

/-- Whether work is done in parallel, and by how many workers at most. -/
structure Parallelism where
  enabled : Bool
  limit : Option Nat
deriving DecidableEq, Repr

namespace Parallelism

/-- In parallel, without a limit. -/
def standard : Parallelism := ⟨true, none⟩

instance : Inhabited Parallelism := ⟨standard⟩

/-- One after another. -/
def sequential : Parallelism := ⟨false, none⟩

/-- With a limit on the number of workers; zero means no limit. -/
def withJobs (p : Parallelism) (jobs : Nat) : Parallelism :=
  { p with limit := if jobs = 0 then none else some jobs }

/-- How many workers there are: one when work is sequential, otherwise the limit, and without a
limit the number of processors, for which `none` stands. -/
def workers? (p : Parallelism) : Option Nat := if p.enabled then p.limit else some 1

/-- How many workers there are on a machine with so many processors. -/
def workers (p : Parallelism) (processors : Nat) : Nat := p.workers?.getD processors

/-- The settings as shown in diagnostics. -/
def describe (p : Parallelism) : String :=
  let limit := match p.limit with
    | none => "None"
    | some n => "Some(" ++ toString n ++ ")"
  "ParallelConfig \x7b enabled: " ++ toString p.enabled ++ ", max_concurrency: " ++ limit ++ " \x7d"

end Parallelism

/-- An external tool for one smell, as configured. -/
structure ToolEntry where
  /-- The key or the name of the smell, as written. -/
  smell : String
  /-- The program to run. -/
  program : String
  /-- The arguments that come before the path and the name of the method. -/
  args : List String
  /-- The name used in messages, if it is not that of the program. -/
  name : Option String
deriving DecidableEq, Repr, Inhabited

/-- A configuration. -/
structure Configuration where
  parallel : Parallelism
  strategies : List ToolEntry
deriving DecidableEq, Repr, Inhabited

/-- Parallel without a limit, and without any tool. -/
def Configuration.standard : Configuration := ⟨.standard, []⟩

end SmellRefactor
