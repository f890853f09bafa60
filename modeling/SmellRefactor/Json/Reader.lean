import SmellRefactor.Json.Skip

/-!
# Reading values of a known kind

Readers for single values, lists, objects with free keys, and *records*: groups of named fields
that may be given as an object or as the list of their values.  Text is read from left to right and
the first problem counts.  A problem of a whole record, such as a missing field, is placed behind
its closing bracket.
-/

namespace SmellRefactor.Json

/-- Reports that the value at the cursor is not of the kind that was expected.  The value is still
read, so that its own problems come first. -/
def wrongType (expected : Expected) (c : Cursor) : Except Error α :=
  match c.rest with
  | [] => c.failNext .endInValue
  | '[' :: _ => c.misfit (.wrongType .sequence expected)
  | '\x7b' :: _ => c.misfit (.wrongType .map expected)
  | 'n' :: _ =>
    match readWord ['u', 'l', 'l'] c.next with
    | .error e => .error e
    | .ok c => c.misfit (.wrongType .null expected)
  | 't' :: _ =>
    match readWord ['r', 'u', 'e'] c.next with
    | .error e => .error e
    | .ok c => c.misfit (.wrongType (.boolean true) expected)
  | 'f' :: _ =>
    match readWord ['a', 'l', 's', 'e'] c.next with
    | .error e => .error e
    | .ok c => c.misfit (.wrongType (.boolean false) expected)
  | '"' :: _ =>
    match readText c.next with
    | .error e => .error e
    | .ok (text, c) => c.misfit (.wrongType (.text text) expected)
  | '-' :: _ =>
    match readNumber true c.next with
    | .error e => .error e
    | .ok (n, c) => c.misfit (.wrongType n.found expected)
  | ch :: _ =>
    if isDigit ch then
      match readNumber false c with
      | .error e => .error e
      | .ok (n, c) => c.misfit (.wrongType n.found expected)
    else c.failNext .expectedValue

/-- Reads a text; anything else is reported against `expected`. -/
def readTextAs (expected : Expected) : Reader String := fun c =>
  let c := c.skipGap
  match c.rest with
  | '"' :: _ => readText c.next
  | _ => wrongType expected c

/-- Reads a text. -/
def readString : Reader String := readTextAs .string

/-- Reads `true` or `false`. -/
def readBoolean : Reader Bool := fun c =>
  let c := c.skipGap
  match c.rest with
  | 't' :: _ => (readWord ['r', 'u', 'e'] c.next).map fun c => (true, c)
  | 'f' :: _ => (readWord ['a', 'l', 's', 'e'] c.next).map fun c => (false, c)
  | _ => wrongType .boolean c

/-- Takes a number as a count. -/
def countOf (result : Numeral × Cursor) : Except Error (Nat × Cursor) :=
  match result with
  | (.natural n, c) => .ok (n, c)
  | (.negative n, c) => c.misfit (.wrongValue (.integer (-(n : Int))) .count)
  | (.float x, c) => c.misfit (.wrongType (.float x) .count)

/-- Reads a whole number of at most 64 bits. -/
def readCount : Reader Nat := fun c =>
  let c := c.skipGap
  match c.rest with
  | '-' :: _ => (readNumber true c.next).bind countOf
  | ch :: _ => if isDigit ch then (readNumber false c).bind countOf else wrongType .count c
  | [] => wrongType .count c

/-- Reads `null`. -/
def readUnit (c : Cursor) : Except Error Cursor :=
  let c := c.skipGap
  match c.rest with
  | 'n' :: _ => readWord ['u', 'l', 'l'] c.next
  | _ => wrongType .unit c

/-- Reads `null` as nothing, and anything else with `item`. -/
def readOptional (item : Reader α) : Reader (Option α) := fun c =>
  let c := c.skipGap
  match c.rest with
  | 'n' :: _ => (readWord ['u', 'l', 'l'] c.next).map fun c => (none, c)
  | _ => (item c).map fun (a, c) => (some a, c)

/-- Reads the only key of an object that stands for a smell. -/
def readSmellKey : Reader String := fun c =>
  match c.rest with
  | '"' :: _ => readText c.next
  | '\x7d' :: _ => c.failNext .expectedValue
  | [] => c.failNext .endInObject
  | _ => c.failNext .keyMustBeString

/-- Reads a smell: its key as a text, or as the only key of an object whose value is `null`. -/
def readSmell : Reader CodeSmell := fun c =>
  let c := c.skipGap
  let smellOf (text : String) (c : Cursor) : Except Error (CodeSmell × Cursor) :=
    match CodeSmell.ofKey? text with
    | some smell => .ok (smell, c)
    | none => c.misfit (.unknownVariant text)
  match c.rest with
  | [] => c.failNext .endInValue
  | '"' :: _ =>
    match readText c.next with
    | .error e => .error e
    | .ok (text, c) => smellOf text c
  | '\x7b' :: _ => do
    let (text, c) ← readSmellKey c.next.skipGap
    let (smell, c) ← smellOf text c
    let c ← readColon c
    let c ← readUnit c
    let c := c.skipGap
    match c.rest with
    | [] => c.fail .endInObject
    | '\x7d' :: _ => return (smell, c.next)
    | _ => c.fail .expectedValue
  | _ => c.failNext .expectedValue

/-- Looks for another value of a list: reads the comma before it and tells whether there is one. -/
def nextElement (first : Bool) (c : Cursor) : Except Error (Bool × Cursor) :=
  let c := c.skipGap
  match c.rest with
  | [] => c.failNext .endInList
  | ']' :: _ => .ok (false, c)
  | ch :: _ =>
    if first then .ok (true, c)
    else if ch = ',' then
      let c := c.next.skipGap
      match c.rest with
      | [] => c.failNext .endInValue
      | ']' :: _ => c.failNext .trailingComma
      | _ => .ok (true, c)
    else c.failNext .expectedListCommaOrEnd

/-- Looks for another key of an object: reads the comma before it and tells whether there is one. -/
def nextMember (first : Bool) (c : Cursor) : Except Error (Bool × Cursor) :=
  let c := c.skipGap
  match c.rest with
  | [] => c.failNext .endInObject
  | '\x7d' :: _ => .ok (false, c)
  | ch :: _ =>
    if first then
      if ch = '"' then .ok (true, c) else c.failNext .keyMustBeString
    else if ch = ',' then
      let c := c.next.skipGap
      match c.rest with
      | [] => c.failNext .endInValue
      | '"' :: _ => .ok (true, c)
      | '\x7d' :: _ => c.failNext .trailingComma
      | _ => c.failNext .keyMustBeString
    else c.failNext .expectedObjectCommaOrEnd

/-- Reads the values of a list up to its closing bracket. -/
def readElements (item : Reader α) : Nat → Bool → Cursor → Except Error (List α × Cursor)
  | 0, _, c => c.failNext .endInList
  | fuel + 1, first, c => do
    let (more, c) ← nextElement first c
    if more then
      let (a, c) ← item c
      let (as, c) ← readElements item fuel false c
      return (a :: as, c)
    else return ([], c.next)

/-- Reads a list. -/
def readList (item : Reader α) : Reader (List α) := fun c =>
  let c := c.skipGap
  match c.rest with
  | '[' :: _ => readElements item (c.rest.length + 1) true c.next
  | _ => wrongType .sequence c

/-- Reads the members of an object up to its closing bracket. -/
def readMembers (item : Reader α) : Nat → Bool → Cursor → Except Error (List (String × α) × Cursor)
  | 0, _, c => c.failNext .endInObject
  | fuel + 1, first, c => do
    let (more, c) ← nextMember first c
    if more then
      let (key, c) ← readText c.next
      let c ← readColon c
      let (a, c) ← item c
      let (rest, c) ← readMembers item fuel false c
      return ((key, a) :: rest, c)
    else return ([], c.next)

/-- Reads an object with free keys, in the order of its text. -/
def readObject (item : Reader α) : Reader (List (String × α)) := fun c =>
  let c := c.skipGap
  match c.rest with
  | '\x7b' :: _ => readMembers item (c.rest.length + 1) true c.next
  | _ => wrongType .map c

/-- A field of a record under construction. -/
structure Field (π : Type) where
  name : String
  /-- Whether the field has been given. -/
  isSet : π → Bool
  /-- Reads the value of the field. -/
  read : π → Reader π
  /-- Whether a list of values may end before this field. -/
  optional : Bool

/-- A record: its name, its fields in order, and how it is built from what was given. -/
structure Shape (π α : Type) where
  label : String
  fields : List (Field π)
  /-- The record before any field has been given. -/
  blank : π
  /-- The finished record, or the name of a field that is missing. -/
  finish : π → Except String α

namespace Shape

variable {π α : Type}

/-- Finishes a record at a cursor that stands before the closing bracket. -/
def close (shape : Shape π α) (built : π) (c : Cursor) (bracket : Char) :
    Except Error (α × Cursor) :=
  let c := c.skipClose bracket
  match shape.finish built with
  | .ok a => .ok (a, c)
  | .error name => c.misfit (.missingField name)

/-- Reads the values of the fields from a list. -/
def readValues (shape : Shape π α) : List (Field π) → Nat → Bool → π → Cursor →
    Except Error (π × Cursor)
  | [], _, _, built, c => .ok (built, c)
  | field :: fields, index, first, built, c => do
    let (more, c) ← nextElement first c
    if more then
      let (built, c) ← field.read built c
      readValues shape fields (index + 1) false built c
    else if field.optional then readValues shape fields (index + 1) first built c
    else (c.skipClose ']').misfit (.tooShort index shape.label shape.fields.length)

/-- Reads the end of a list of field values. -/
def closeValues (shape : Shape π α) (built : π) (c : Cursor) : Except Error (α × Cursor) :=
  let c := c.skipGap
  match c.rest with
  | [] => c.failNext .endInList
  | ']' :: _ => shape.close built c ']'
  | ',' :: _ =>
    let c := c.next.skipGap
    if c.rest.head? = some ']' then c.failNext .trailingComma else c.failNext .trailingCharacters
  | _ => c.failNext .trailingCharacters

/-- Reads the members of a record up to its closing bracket. -/
def readFields (shape : Shape π α) : Nat → Bool → π → Cursor → Except Error (α × Cursor)
  | 0, _, _, c => c.failNext .endInObject
  | fuel + 1, first, built, c => do
    let (more, c) ← nextMember first c
    if !more then shape.close built c '\x7d'
    else
      let (key, c) ← readText c.next
      match shape.fields.find? fun field => field.name == key with
      | none =>
        let c ← readColon c
        let c ← skipValue c
        readFields shape fuel false built c
      | some field =>
        if field.isSet built then (c.skipClose '\x7d').misfit (.repeatedField key)
        else
          let c ← readColon c
          let (built, c) ← field.read built c
          readFields shape fuel false built c

/-- Reads a record from an object or from a list of its values. -/
def read (shape : Shape π α) : Reader α := fun c =>
  let c := c.skipGap
  match c.rest with
  | '[' :: _ => do
    let (built, c) ← shape.readValues shape.fields 0 true shape.blank c.next
    shape.closeValues built c
  | '\x7b' :: _ => shape.readFields (c.rest.length + 1) true shape.blank c.next
  | _ => wrongType (.struct shape.label) c

end Shape

/-- Reads a whole text as one value. -/
def readDocument (item : Reader α) (text : String) : Except Error α := do
  let (a, c) ← item (Cursor.ofText text)
  let c := c.skipGap
  if c.rest.isEmpty then return a else c.failNext .trailingCharacters

end SmellRefactor.Json
