import SmellRefactor.Json.Error

/-!
# Reading JSON texts: places and tokens

A cursor is the rest of a text together with the place where it stands.  A reader takes a cursor
and gives a value with the cursor behind it, or the first problem.
-/

namespace SmellRefactor.Json

/-- The rest of a text and its place. -/
structure Cursor where
  rest : List Char
  position : Position
deriving DecidableEq, Repr

/-- A reader of values. -/
abbrev Reader (α : Type) := Cursor → Except Error (α × Cursor)

namespace Cursor

/-- The beginning of a text. -/
def ofText (text : String) : Cursor := ⟨text.toList, Position.start⟩

/-- A problem at the cursor, that is behind everything that has been read. -/
def fail (c : Cursor) (cause : Cause) : Except Error α := .error ⟨cause, c.position⟩

/-- A problem with the character at the cursor. -/
def failNext (c : Cursor) (cause : Cause) : Except Error α :=
  .error ⟨cause, c.position.atNext c.rest⟩

/-- A misfit reported at the cursor. -/
def misfit (c : Cursor) (m : Misfit) : Except Error α := c.fail (.misfit m)

/-- The cursor behind one character. -/
def next (c : Cursor) : Cursor :=
  match c.rest with
  | [] => c
  | ch :: rest => ⟨rest, c.position.after ch⟩

/-- Whether a character may stand between tokens. -/
def isGap (ch : Char) : Bool := ch == ' ' || ch == '\n' || ch == '\t' || ch == '\r'

/-- Skips the blanks between tokens. -/
def skipGap (c : Cursor) : Cursor :=
  let rec go : List Char → Position → Cursor
    | [], p => ⟨[], p⟩
    | ch :: rest, p => if isGap ch then go rest (p.after ch) else ⟨ch :: rest, p⟩
  go c.rest c.position

/-- Skips blanks and then a closing bracket, if one stands there. -/
def skipClose (c : Cursor) (close : Char) : Cursor :=
  let c := c.skipGap
  if c.rest.head? = some close then c.next else c

end Cursor

/-- Reads the remaining letters of a word such as `null`. -/
def readWord : List Char → Cursor → Except Error Cursor
  | [], c => .ok c
  | expected :: word, c =>
    match c.rest with
    | [] => c.fail .endInValue
    | ch :: rest =>
      if ch = expected then readWord word ⟨rest, c.position.after ch⟩
      else .error ⟨.expectedIdent, c.position.afterByte ch⟩

/-- Reads the colon between a key and its value. -/
def readColon (c : Cursor) : Except Error Cursor :=
  let c := c.skipGap
  match c.rest with
  | ':' :: _ => .ok c.next
  | [] => c.failNext .endInObject
  | _ => c.failNext .expectedColon

end SmellRefactor.Json
