import SmellRefactor.Failure.Builder
import SmellRefactor.Strategy.Registry
import SmellRefactor.Workload

/-!
# Runs

A run hands every method to the strategies for its smells.  The smells to work on are settled before
the first attempt: those that the method carries and the registry handles, in their order.  A
success takes the smell off the method at once, so that later attempts see the method without it;
any other outcome records the method, as the strategy saw it, in the failure index.

The files of a workload are worked on one after another, each with an index of its own, and the
indices are merged in the same order.  Where work may be done in parallel this is one of the
possible orders.
-/

namespace SmellRefactor

/-- One call of a strategy, with the method as it was passed. -/
structure Attempt where
  path : Path
  method : Method
  smell : CodeSmell
  strategy : String
  outcome : Outcome
deriving DecidableEq, Repr

/-- The event that tells of an attempt. -/
def Attempt.event (a : Attempt) : Event :=
  match a.outcome with
  | .resolved => .applied a.path a.method.name a.smell
  | .unresolved => .unresolved a.path a.method.name a.smell
  | .fault fault => .faulted a.path a.method.name a.strategy fault.reason

/-- What has been done so far. -/
structure Journal (σ : Type) where
  failures : FailureIndex.Builder
  attempts : List Attempt
  events : List Event
  world : σ

namespace Journal

variable {σ : Type}

/-- Nothing done yet in a world. -/
def start (world : σ) : Journal σ := ⟨.empty, [], [], world⟩

/-- The same journal with a new book of failures. -/
def turnPage (j : Journal σ) : Journal σ := { j with failures := .empty }

/-- Enters an attempt, after the events that the strategy itself told of. -/
def enter (j : Journal σ) (a : Attempt) (told : List Event) (world : σ) : Journal σ where
  failures :=
    if a.outcome.isResolved then j.failures else j.failures.record a.smell a.path a.method
  attempts := j.attempts ++ [a]
  events := j.events ++ told ++ [a.event]
  world := world

end Journal

namespace Registry

variable {σ : Type}

/-- Works on some smells of a method, one after another. -/
def workOn (r : Registry σ) (path : Path) :
    List CodeSmell → Method → Journal σ → Method × Journal σ
  | [], m, j => (m, j)
  | smell :: smells, m, j =>
    match r.find? smell with
    | none => workOn r path smells m j
    | some strategy =>
      let response := strategy.attempt path m j.world
      let j := j.enter ⟨path, m, smell, strategy.name, response.outcome⟩ response.events
        response.world
      workOn r path smells (if response.outcome.isResolved then m.clear smell else m) j

/-- Works on all smells of a method that have a strategy. -/
def workOnMethod (r : Registry σ) (path : Path) (m : Method) (j : Journal σ) :
    Method × Journal σ :=
  r.workOn path (r.eligible m) m j

/-- Works on the methods of a file, one after another. -/
def workOnMethods (r : Registry σ) (path : Path) :
    List Method → Journal σ → List Method × Journal σ
  | [], j => ([], j)
  | m :: methods, j =>
    let (m, j) := r.workOnMethod path m j
    let (methods, j) := workOnMethods r path methods j
    (m :: methods, j)

/-- Works on files, one after another, and merges their failures into an index. -/
def workOnFiles (r : Registry σ) :
    List (Path × List Method) → FailureIndex → Journal σ →
      List (Path × List Method) × FailureIndex × Journal σ
  | [], index, j => ([], index, j)
  | (path, methods) :: files, index, j =>
    let (methods, j) := r.workOnMethods path methods j.turnPage
    let (files, index, j) := workOnFiles r files (index.merge j.failures.finish) j
    ((path, methods) :: files, index, j)

/-- Work on files leaves their paths alone. -/
theorem workOnFiles_paths (r : Registry σ) (files : List (Path × List Method))
    (index : FailureIndex) (j : Journal σ) :
    (r.workOnFiles files index j).1.map Prod.fst = files.map Prod.fst := by
  induction files generalizing index j with
  | nil => rfl
  | cons file files ih => simp [workOnFiles, ih]

/-- The number of attempts that a run on a workload will make. -/
def countAttempts (r : Registry σ) (w : Workload) : Nat :=
  tally (fun file => tally (fun m => (r.eligible m).length) file.2) w.files

end Registry

/-- The end of a run: its answer, the methods as they are left, and what was done. -/
structure Run (σ α : Type) where
  answer : Except Error FailureIndex
  left : α
  attempts : List Attempt
  events : List Event
  world : σ

/-- A run that was refused before anything was done. -/
def Run.refused (error : Error) (left : α) (world : σ) : Run σ α :=
  ⟨.error error, left, [], [], world⟩

/-- A registry with the settings of parallel work. -/
structure Refactoring (σ : Type) where
  registry : Registry σ
  parallel : Parallelism := .standard

namespace Refactoring

variable {σ : Type}

/-- Refactors the methods of one file. -/
def refactor (r : Refactoring σ) (path : Path) (methods : List Method) (world : σ) :
    Run σ (List Method) :=
  if path.isEmpty then .refused .emptyPath methods world
  else
    let (methods, j) := r.registry.workOnMethods path methods (.start world)
    ⟨.ok j.failures.finish, methods, j.attempts, j.events, j.world⟩

/-- Refactors the methods of all files of a workload.  An empty path anywhere refuses the whole
workload. -/
def refactorAll (r : Refactoring σ) (w : Workload) (world : σ) : Run σ Workload :=
  if w.files.any fun file => file.1.isEmpty then .refused .emptyPath w world
  else
    let done := r.registry.workOnFiles w.files .empty (.start world)
    { answer := .ok done.2.1
      left := w.withFiles done.1 (Registry.workOnFiles_paths ..)
      attempts := done.2.2.attempts
      events := done.2.2.events ++ [.finished w.size done.2.1.total]
      world := done.2.2.world }

/-- A refactoring as shown in diagnostics. -/
def describe (r : Refactoring σ) : String :=
  "Refactoring \x7b registry: " ++ r.registry.describe ++ ", parallel: " ++ r.parallel.describe ++
    " \x7d"

end Refactoring

end SmellRefactor
