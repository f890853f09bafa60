import SmellRefactor.Method
import SmellRefactor.OrderedMap.Basic
import SmellRefactor.Path.Basic
import SmellRefactor.Tally

/-!
# Failure indices

A failure index lists, under the name of a smell and then under a path, the methods for which the
smell could not be resolved.  Smell names are in the order of their characters and paths in path
order; the methods of one list are in the order in which they were recorded.  Indices of separate
runs are combined by `FailureIndex.merge`.
-/

namespace SmellRefactor

/-- Failed methods by path. -/
abbrev FailedMethods := OrderedMap Path (List Method)

/-- Failed methods by smell name and path. -/
structure FailureIndex where
  table : OrderedMap String FailedMethods
deriving DecidableEq, Inhabited

namespace FailureIndex

/-- The index without failures. -/
def empty : FailureIndex := ⟨.empty⟩

/-- Whether no smell name occurs in the index. -/
def isEmpty (index : FailureIndex) : Bool := index.table.isEmpty

/-- The methods that failed under a smell name at a path. -/
def find? (index : FailureIndex) (name : String) (path : Path) : Option (List Method) :=
  (index.table.find? name).bind fun methods => methods.find? path

/-- The methods that failed for a smell at a path. -/
def ofSmell? (index : FailureIndex) (smell : CodeSmell) (path : Path) : Option (List Method) :=
  index.find? smell.name path

/-- The paths that occur under a smell name. -/
def paths (index : FailureIndex) (name : String) : List Path :=
  ((index.table.find? name).map OrderedMap.keys).getD []

/-- All lists with their smell names and paths, in order. -/
def rows (index : FailureIndex) : List (String × Path × List Method) :=
  index.table.entries.flatMap fun (name, methods) =>
    methods.entries.map fun (path, failed) => (name, path, failed)

/-- The number of failures. -/
def total (index : FailureIndex) : Nat :=
  tally (fun methods => tally List.length methods.values) index.table.values

/-- Appends failed methods at a path. -/
def appendAt (methods : FailedMethods) (path : Path) (failed : List Method) : FailedMethods :=
  methods.upsert path fun old => old.getD [] ++ failed

/-- Both collections of failed methods; where a path occurs in both, those of the first come
first. -/
def mergeMethods (first second : FailedMethods) : FailedMethods :=
  second.entries.foldl (fun methods e => appendAt methods e.1 e.2) first

/-- Both indices together.  Lists under the same smell name and path are joined, those of the first
index first, and nothing is dropped. -/
def merge (first second : FailureIndex) : FailureIndex :=
  ⟨second.table.entries.foldl
    (fun table e => table.upsert e.1 fun old => mergeMethods (old.getD .empty) e.2) first.table⟩

/-- The index of a nested table without its empty lists and without smell names that have no list
left. -/
def ofTable (table : OrderedMap String FailedMethods) : FailureIndex :=
  ⟨table.filterMap fun _ methods =>
    let kept := methods.filterMap fun _ failed => if failed.isEmpty then none else some failed
    if kept.isEmpty then none else some kept⟩

/-- Whether two indices hold the same lists under the same names and paths, however the paths are
spelled. -/
def equivalent (first second : FailureIndex) : Bool :=
  first.table.equivalent (fun a b => a.equivalent (fun x y => decide (x = y)) b) second.table

end FailureIndex

end SmellRefactor
