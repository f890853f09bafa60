import SmellRefactor.Json.Number
import SmellRefactor.Json.Text

/-!
# Values that are not needed

The value of an unknown key is read over: its form is checked, to any depth, but it is not built.
-/

namespace SmellRefactor.Json

/-- A bracket that has been opened and not yet closed. -/
inductive Bracket where
  | list
  | object
deriving DecidableEq, Repr

namespace Bracket

/-- The character that closes a bracket. -/
def close : Bracket → Char
  | list => ']'
  | object => '\x7d'

/-- The problem of a text that ends inside a bracket. -/
def unclosed : Bracket → Cause
  | list => .endInList
  | object => .endInObject

/-- The problem of a bracket in which something else follows a value. -/
def unseparated : Bracket → Cause
  | list => .expectedListCommaOrEnd
  | object => .expectedObjectCommaOrEnd

end Bracket

/-- What is expected next while a value is read over. -/
inductive SkipState where
  | value
  | opened
  | separator
deriving DecidableEq, Repr

/-- Reads over a key and its colon. -/
def skipKey (c : Cursor) : Except Error Cursor :=
  let c := c.skipGap
  match c.rest with
  | [] => c.failNext .endInObject
  | '"' :: _ =>
    match skipText c.next with
    | .error e => .error e
    | .ok c => readColon c
  | _ => c.failNext .keyMustBeString

/-- Reads over what precedes a value inside a bracket: a key, if the bracket is an object. -/
def skipLabel : Bracket → Cursor → Except Error Cursor
  | .list, c => .ok c
  | .object, c => skipKey c

/-- Reads over a value inside the open brackets, the innermost first.  The number bounds the steps;
each step but the entry into a bracket reads a character. -/
def skipSteps : Nat → SkipState → List Bracket → Cursor → Except Error Cursor
  | 0, _, _, c => c.failNext .endInValue
  | fuel + 1, .value, opens, c =>
    let c := c.skipGap
    let finish (result : Except Error Cursor) : Except Error Cursor :=
      match result with
      | .error e => .error e
      | .ok c => skipSteps fuel .separator opens c
    match c.rest with
    | [] => c.failNext .endInValue
    | 'n' :: _ => finish (readWord ['u', 'l', 'l'] c.next)
    | 't' :: _ => finish (readWord ['r', 'u', 'e'] c.next)
    | 'f' :: _ => finish (readWord ['a', 'l', 's', 'e'] c.next)
    | '-' :: _ => finish (skipNumber c.next)
    | '"' :: _ => finish (skipText c.next)
    | '[' :: _ => skipSteps fuel .opened (.list :: opens) c.next
    | '\x7b' :: _ => skipSteps fuel .opened (.object :: opens) c.next
    | ch :: _ => if isDigit ch then finish (skipNumber c) else c.failNext .expectedValue
  | _ + 1, .opened, [], c => .ok c
  | fuel + 1, .opened, bracket :: opens, c =>
    let c := c.skipGap
    match c.rest with
    | [] => c.failNext bracket.unclosed
    | ch :: _ =>
      if ch = bracket.close then skipSteps fuel .separator opens c.next
      else match skipLabel bracket c with
        | .error e => .error e
        | .ok c => skipSteps fuel .value (bracket :: opens) c
  | _ + 1, .separator, [], c => .ok c
  | fuel + 1, .separator, bracket :: opens, c =>
    let c := c.skipGap
    match c.rest with
    | [] => c.failNext bracket.unclosed
    | ',' :: _ =>
      match skipLabel bracket c.next with
      | .error e => .error e
      | .ok c => skipSteps fuel .value (bracket :: opens) c
    | ch :: _ =>
      if ch = bracket.close then skipSteps fuel .separator opens c.next
      else c.failNext bracket.unseparated

/-- Reads over one value. -/
def skipValue (c : Cursor) : Except Error Cursor :=
  skipSteps (2 * c.rest.length + 2) .value [] c

end SmellRefactor.Json
