import SmellRefactor.Decimal.Numeral
import SmellRefactor.Json.Text

/-!
# Writing JSON

A document is written either on one line without blanks, or with every member on a line of its own,
two spaces deeper than the bracket around it.
-/

namespace SmellRefactor.Json

/-- A document to be written. -/
inductive Document where
  | null
  | boolean (value : Bool)
  | natural (value : Nat)
  | text (value : String)
  | list (items : List Document)
  | object (members : List (String × Document))
deriving Inhabited

/-- How a document is laid out. -/
inductive Layout where
  | compact
  | indented
deriving DecidableEq, Repr

namespace Layout

/-- What stands before a member at some depth, and before the bracket that closes a group there. -/
def gap (layout : Layout) (depth : Nat) : List Char :=
  match layout with
  | compact => []
  | indented => '\n' :: List.replicate (2 * depth) ' '

/-- What stands between a key and its value. -/
def colon : Layout → List Char
  | compact => [':']
  | indented => [':', ' ']

end Layout

namespace Document

mutual

/-- The text of a document at some depth. -/
def write (layout : Layout) (depth : Nat) : Document → List Char
  | null => ['n', 'u', 'l', 'l']
  | boolean true => ['t', 'r', 'u', 'e']
  | boolean false => ['f', 'a', 'l', 's', 'e']
  | natural n => Decimal.digits n
  | text s => writeText s
  | list [] => ['[', ']']
  | list (item :: items) =>
    '[' :: (layout.gap (depth + 1) ++ write layout (depth + 1) item ++
      writeItems layout (depth + 1) items ++ layout.gap depth ++ [']'])
  | object [] => ['\x7b', '\x7d']
  | object ((key, value) :: members) =>
    '\x7b' :: (layout.gap (depth + 1) ++ writeText key ++ layout.colon ++
      write layout (depth + 1) value ++ writeMembers layout (depth + 1) members ++
      layout.gap depth ++ ['\x7d'])

/-- The items of a list behind the first one. -/
def writeItems (layout : Layout) (depth : Nat) : List Document → List Char
  | [] => []
  | item :: items =>
    ',' :: (layout.gap depth ++ write layout depth item ++ writeItems layout depth items)

/-- The members of an object behind the first one. -/
def writeMembers (layout : Layout) (depth : Nat) : List (String × Document) → List Char
  | [] => []
  | (key, value) :: members =>
    ',' :: (layout.gap depth ++ writeText key ++ layout.colon ++ write layout depth value ++
      writeMembers layout depth members)

end

/-- The document on one line. -/
def compact (d : Document) : String := String.ofList (d.write .compact 0)

/-- The document with one member on each line. -/
def indented (d : Document) : String := String.ofList (d.write .indented 0)

end Document

end SmellRefactor.Json
