import SmellRefactor.Config.Basic
import SmellRefactor.OrderedMap.Basic
import SmellRefactor.Strategy.Basic

/-!
# Registries

A registry holds at most one strategy for each smell; registering another one replaces it.  The
smells of a registry are listed in their own order, whatever the order of registration.
-/

namespace SmellRefactor

/-- Strategies by smell. -/
structure Registry (σ : Type) where
  strategies : OrderedMap CodeSmell (Strategy σ)

namespace Registry

variable {σ : Type}

/-- The registry without strategies. -/
def empty : Registry σ := ⟨.empty⟩

/-- The strategy for a smell. -/
def find? (r : Registry σ) (smell : CodeSmell) : Option (Strategy σ) := r.strategies.find? smell

/-- The strategy that was registered before, and the registry with the new one in its place. -/
def register (r : Registry σ) (strategy : Strategy σ) : Option (Strategy σ) × Registry σ :=
  (r.find? strategy.smell, ⟨r.strategies.insert strategy.smell strategy⟩)

/-- The registry with one more strategy. -/
def extend (r : Registry σ) (strategy : Strategy σ) : Registry σ := (r.register strategy).2

/-- Registers strategies one after another. -/
def ofList (strategies : List (Strategy σ)) : Registry σ := strategies.foldl Registry.extend empty

/-- The smells that have a strategy, in their order. -/
def handled (r : Registry σ) : List CodeSmell := r.strategies.keys

/-- The number of strategies. -/
def size (r : Registry σ) : Nat := r.strategies.size

/-- Whether there is no strategy. -/
def isEmpty (r : Registry σ) : Bool := r.strategies.isEmpty

/-- The smells of a method that have a strategy, in their order. -/
def eligible (r : Registry σ) (m : Method) : List CodeSmell := r.handled.filter m.carries

/-- A smell with the name of its strategy, as shown in diagnostics. -/
def describeEntry (entry : CodeSmell × Strategy σ) : String :=
  entry.1.label ++ ": " ++ Text.quoted entry.2.name

/-- The registry on one line. -/
def describe (r : Registry σ) : String :=
  "\x7b" ++ ", ".intercalate (r.strategies.entries.map describeEntry) ++ "\x7d"

/-- The registry with one strategy on each line. -/
def describeLong (r : Registry σ) : String :=
  if r.isEmpty then "\x7b\x7d"
  else
    let lines := r.strategies.entries.map fun e => "    " ++ describeEntry e ++ ",\n"
    "\x7b\n" ++ String.join lines ++ "\x7d"

end Registry

end SmellRefactor
