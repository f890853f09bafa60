import SmellRefactor.Smell

/-!
# Methods

A method of a program, with the smells that were detected on it.  The smells are a list: tagging
adds at the end and ignores a smell that is already there, while a list that was read from a file
may repeat itself; taking a smell off takes off all its occurrences.
-/

namespace SmellRefactor

/-- A method and the smells detected on it. -/
structure Method where
  name : String
  smells : List CodeSmell
deriving DecidableEq, Repr, Inhabited

namespace Method

/-- A method without smells. -/
def ofName (name : String) : Method := ⟨name, []⟩

/-- Whether the method carries the smell. -/
def carries (m : Method) (smell : CodeSmell) : Bool := m.smells.contains smell

/-- Whether the method carries any smell. -/
def isSmelly (m : Method) : Bool := !m.smells.isEmpty

/-- Adds a smell at the end, without a check. -/
def push (m : Method) (smell : CodeSmell) : Method := { m with smells := m.smells ++ [smell] }

/-- Tags the method with a smell, unless it already carries it. -/
def tag (m : Method) (smell : CodeSmell) : Method :=
  if m.carries smell then m else m.push smell

/-- Takes every occurrence of a smell off the method. -/
def clear (m : Method) (smell : CodeSmell) : Method :=
  { m with smells := m.smells.filter (· ≠ smell) }

/-- Takes a smell off the method, and tells whether it was there. -/
def remove (m : Method) (smell : CodeSmell) : Bool × Method :=
  ((m.clear smell).smells.length != m.smells.length, m.clear smell)

@[simp]
theorem clear_name (m : Method) (smell : CodeSmell) : (m.clear smell).name = m.name := rfl

@[simp]
theorem clear_smells (m : Method) (smell : CodeSmell) :
    (m.clear smell).smells = m.smells.filter (· ≠ smell) := rfl

end Method

end SmellRefactor
