import SmellRefactor.Decimal.Shortest
import SmellRefactor.Smell
import SmellRefactor.Text.Quoted

/-!
# Values that do not fit

A document can be well formed and still not describe what the program needs: a number where a text
belongs, a field that is missing or given twice, a list that is too short.  `Misfit` names these
cases; `Misfit.message` is their wording, which the two data formats share up to the way in which
they write floating point numbers.
-/

namespace SmellRefactor

/-- What stood in the document. -/
inductive Found where
  | null
  | boolean (value : Bool)
  | integer (value : Int)
  | float (value : Decimal.Binary64)
  | text (value : String)
  | sequence
  | map
  | wideInteger (value : Int) (width : String)
deriving DecidableEq, Repr

/-- What the program needed. -/
inductive Expected where
  | string
  | boolean
  | count
  | sequence
  | map
  | unit
  | struct (label : String)
deriving DecidableEq, Repr

/-- A way in which a well-formed value does not fit. -/
inductive Misfit where
  | wrongType (found : Found) (expected : Expected)
  | wrongValue (found : Found) (expected : Expected)
  | tooShort (length : Nat) (label : String) (size : Nat)
  | missingField (name : String)
  | repeatedField (name : String)
  | unknownVariant (text : String)
deriving DecidableEq, Repr

namespace Found

/-- The description of what stood in the document. -/
def message (format : Decimal.FloatFormat) : Found → String
  | null => "null"
  | boolean true => "boolean `true`"
  | boolean false => "boolean `false`"
  | integer n => "integer `" ++ Decimal.integerText n ++ "`"
  | float x => "floating point `" ++ format.text x ++ "`"
  | text s => "string " ++ Text.quoted s
  | sequence => "sequence"
  | map => "map"
  | wideInteger n width => "integer `" ++ Decimal.integerText n ++ "` as " ++ width

end Found

namespace Expected

/-- The description of what was needed. -/
def message : Expected → String
  | string => "a string"
  | boolean => "a boolean"
  | count => "usize"
  | sequence => "a sequence"
  | map => "a map"
  | unit => "unit"
  | struct label => "struct " ++ label

end Expected

namespace Misfit

/-- The keys of all smells in a list for messages. -/
def smellKeys : String := ", ".intercalate (CodeSmell.all.map fun smell => "`" ++ smell.key ++ "`")

/-- The wording of a misfit. -/
def message (format : Decimal.FloatFormat) : Misfit → String
  | wrongType found expected =>
    "invalid type: " ++ found.message format ++ ", expected " ++ expected.message
  | wrongValue found expected =>
    "invalid value: " ++ found.message format ++ ", expected " ++ expected.message
  | tooShort length label size =>
    "invalid length " ++ toString length ++ ", expected struct " ++ label ++ " with " ++
      toString size ++ " elements"
  | missingField name => "missing field `" ++ name ++ "`"
  | repeatedField name => "duplicate field `" ++ name ++ "`"
  | unknownVariant text => "unknown variant `" ++ text ++ "`, expected one of " ++ smellKeys

end Misfit

end SmellRefactor
