import SmellRefactor.Decimal.Binary64

/-!
# TOML values

A value of a TOML document.  Of a date or a time only its presence matters.  The members of a table
stand in the order of their keys.
-/

namespace SmellRefactor.Toml

/-- A value of a document. -/
inductive Value where
  | text (value : String)
  | integer (value : Int)
  | float (value : Decimal.Binary64)
  | boolean (value : Bool)
  | dateTime
  | list (items : List Value)
  | table (members : List (String × Value))
deriving Inhabited

mutual

/-- Whether every whole number in a value fits in 64 bits, one of which is the sign. -/
def Value.isPortable : Value → Bool
  | .integer n => -(Decimal.twoTo 63 : Int) ≤ n && n < Decimal.twoTo 63
  | .list items => arePortable items
  | .table members => membersArePortable members
  | _ => true

/-- Whether every whole number in a list fits in 64 bits. -/
def arePortable : List Value → Bool
  | [] => true
  | item :: items => item.isPortable && arePortable items

/-- Whether every whole number in the members of a table fits in 64 bits. -/
def membersArePortable : List (String × Value) → Bool
  | [] => true
  | (_, value) :: members => value.isPortable && membersArePortable members

end

end SmellRefactor.Toml
