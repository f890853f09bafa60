import SmellRefactor.Text.Blank
import SmellRefactor.Text.Letters

/-!
# Code smells

The seven kinds of code smell, in the order in which they are worked on.  A smell has a *key*, used
in data files, and a *name*, shown to people.  `CodeSmell.ofText?` reads either of them, without
regard to case or to white space around it, and `CodeSmell.parse` tells what is wrong where it finds
neither.
-/

namespace SmellRefactor

/-- A kind of code smell. -/
inductive CodeSmell where
  | longMethod
  | longParameterList
  | largeClass
  | featureEnvy
  | dataClump
  | deepNesting
  | duplicateCode
deriving DecidableEq, Repr, Inhabited

namespace CodeSmell

/-- All smells, in their order. -/
def all : List CodeSmell :=
  [longMethod, longParameterList, largeClass, featureEnvy, dataClump, deepNesting, duplicateCode]

/-- The place of a smell in `all`. -/
def position : CodeSmell → Nat
  | longMethod => 0
  | longParameterList => 1
  | largeClass => 2
  | featureEnvy => 3
  | dataClump => 4
  | deepNesting => 5
  | duplicateCode => 6

/-- The name shown to people, which is also the key of a failure index. -/
def name : CodeSmell → String
  | longMethod => "Long Method"
  | longParameterList => "Long Parameter List"
  | largeClass => "Large Class"
  | featureEnvy => "Feature Envy"
  | dataClump => "Data Clump"
  | deepNesting => "Deep Nesting"
  | duplicateCode => "Duplicate Code"

/-- The key used in data and configuration files. -/
def key : CodeSmell → String
  | longMethod => "long_method"
  | longParameterList => "long_parameter_list"
  | largeClass => "large_class"
  | featureEnvy => "feature_envy"
  | dataClump => "data_clump"
  | deepNesting => "deep_nesting"
  | duplicateCode => "duplicate_code"

/-- The name used in diagnostics. -/
def label : CodeSmell → String
  | longMethod => "LongMethod"
  | longParameterList => "LongParameterList"
  | largeClass => "LargeClass"
  | featureEnvy => "FeatureEnvy"
  | dataClump => "DataClump"
  | deepNesting => "DeepNesting"
  | duplicateCode => "DuplicateCode"

/-- Smells are ordered by their place in `all`. -/
instance : Ord CodeSmell where
  compare := compareOn position

instance : Std.TransOrd CodeSmell :=
  inferInstanceAs (Std.TransCmp (compareOn position))

instance : Std.LawfulEqOrd CodeSmell where
  eq_of_compare {a b} h := by
    have h : a.position = b.position := Nat.compare_eq_eq.1 h
    cases a <;> cases b <;> simp_all [position]

/-- The smell with exactly this key. -/
def ofKey? (text : String) : Option CodeSmell := all.find? fun smell => smell.key == text

/-- The smell whose key or name is the text, up to ASCII case and white space at the ends. -/
def ofText? (text : String) : Option CodeSmell :=
  let trimmed := Text.trim text.toList
  all.find? fun smell =>
    Text.sameLetters smell.key.toList trimmed || Text.sameLetters smell.name.toList trimmed

/-- What is said of a text that names no smell. -/
def unknownMessage (text : String) : String := "Unknown code smell: '" ++ text ++ "'"

/-- The smell that a text names, or what is said of a text that names none. -/
def parse (text : String) : Except String CodeSmell :=
  match ofText? text with
  | some smell => .ok smell
  | none => .error (unknownMessage text)

@[simp]
theorem mem_all (smell : CodeSmell) : smell ∈ all := by cases smell <;> decide

end CodeSmell

end SmellRefactor
