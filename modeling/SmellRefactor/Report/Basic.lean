import SmellRefactor.Failure.Index
import SmellRefactor.Workload

/-!
# Reports

What is told about a run: how many files and methods it covered, how many attempts were made,
resolved and failed, which attempts failed, and which methods still carry a smell.
-/

namespace SmellRefactor

/-- The numbers of a run. -/
structure Summary where
  files : Nat
  methods : Nat
  attempted : Nat
  resolved : Nat
  failed : Nat
deriving DecidableEq, Repr, Inhabited

/-- The outcome of a run, as shown to people. -/
structure Report where
  summary : Summary
  failures : FailureIndex
  /-- Methods that still carry a smell, by path. -/
  unresolved : OrderedMap Path (List Method)
deriving DecidableEq, Inhabited

namespace Report

/-- The methods of a workload that carry a smell, without the files that have none. -/
def unresolvedOf (w : Workload) : OrderedMap Path (List Method) :=
  w.ordered.filterMap fun _ methods =>
    let left := methods.filter Method.isSmelly
    if left.isEmpty then none else some left

/-- The report on the state of a workload after a run of so many attempts. -/
def ofRun (attempted : Nat) (w : Workload) (failures : FailureIndex) : Report where
  summary :=
    { files := w.size
      methods := w.methodCount
      attempted := attempted
      resolved := attempted - failures.total
      failed := failures.total }
  failures := failures
  unresolved := unresolvedOf w

/-- Whether the report lists failures. -/
def hasFailures (r : Report) : Bool := !r.failures.isEmpty

end Report

end SmellRefactor
