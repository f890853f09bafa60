import SmellRefactor.Failure.Index

/-!
# Building a failure index

While a run goes on, failures are recorded one at a time.  Recording finds the list under the smell
and the path, making it when it is not there yet, and appends the method.
-/

namespace SmellRefactor.FailureIndex

/-- Failures recorded so far. -/
structure Builder where
  table : OrderedMap String FailedMethods
deriving DecidableEq, Inhabited

namespace Builder

/-- Nothing recorded yet. -/
def empty : Builder := ⟨.empty⟩

/-- Records one failed method. -/
def record (b : Builder) (smell : CodeSmell) (path : Path) (method : Method) : Builder :=
  ⟨b.table.upsert smell.name fun old => appendAt (old.getD .empty) path [method]⟩

/-- The index of everything that was recorded. -/
def finish (b : Builder) : FailureIndex := ⟨b.table⟩

end Builder

end SmellRefactor.FailureIndex
