import SmellRefactor.Toml.Scalar
import SmellRefactor.Toml.Tree

/-!
# Reading TOML documents

A document is a sequence of lines, each of which is blank, names a table, or gives a key its value.
-/

namespace SmellRefactor.Toml

mutual

/-- Reads a value at some depth of nesting.  The number bounds the steps; each reads a character. -/
def readValue : Nat → Nat → List Char → Step (Value × List Char)
  | 0, _, rest => .error (.tooDeep, rest)
  | fuel + 1, depth, rest =>
    match rest with
    | [] => .error (.missingValue, [])
    | '[' :: more =>
      if maxDepth ≤ depth then .error (.tooDeep, rest)
      else (readItems fuel (depth + 1) more).map fun (items, rest) => (.list items, rest)
    | '\x7b' :: more =>
      if maxDepth ≤ depth then .error (.tooDeep, rest)
      else (readInline fuel (depth + 1) [] more).map fun (members, rest) =>
        (.table (finishMembers members), rest)
    | '"' :: _ => (readText rest).map fun (t, rest) => (.text t, rest)
    | '\'' :: _ => (readText rest).map fun (t, rest) => (.text t, rest)
    | _ => readScalar rest

/-- Reads the values of a list up to its closing bracket. -/
def readItems : Nat → Nat → List Char → Step (List Value × List Char)
  | 0, _, rest => .error (.unclosedArray, rest)
  | fuel + 1, depth, rest => do
    let rest ← skipFiller false rest
    match rest with
    | [] => .error (.unclosedArray, [])
    | ']' :: more => return ([], more)
    | _ =>
      let (item, rest) ← readValue fuel depth rest
      let rest ← skipFiller false rest
      match rest with
      | ']' :: more => return ([item], more)
      | ',' :: more =>
        let (items, rest) ← readItems fuel depth more
        return (item :: items, rest)
      | [] => .error (.unclosedArray, [])
      | _ => .error (.unseparatedArray, rest)

/-- Reads the members of an inline table up to its closing bracket.  Around the equals sign of a
member there may be line ends and comments, as there may be around its commas. -/
def readInline : Nat → Nat → Members → List Char → Step (Members × List Char)
  | 0, _, _, rest => .error (.unclosedInlineTable, rest)
  | fuel + 1, depth, members, rest => do
    let rest ← skipFiller false rest
    match rest with
    | [] => .error (.unclosedInlineTable, [])
    | '\x7d' :: more => return (members, more)
    | _ =>
      let start := rest
      let (key, rest) ← readKey rest
      match ← skipFiller false rest with
      | '=' :: more =>
        let (value, rest) ← readValue fuel depth (← skipFiller false more)
        match members.addValue key value .named with
        | .error cause => .error (cause, start)
        | .ok (_, members) =>
          let rest ← skipFiller false rest
          match rest with
          | '\x7d' :: more => return (members, more)
          | ',' :: more => readInline fuel depth members more
          | [] => .error (.unclosedInlineTable, [])
          | _ => .error (.unseparatedInlineTable, rest)
      | rest => .error (.missingEquals, rest)

end

/-- Reads a header behind its first bracket, and opens its table. -/
def readHeader (root : Members) (rest : List Char) : Step (List String × Members × List Char) :=
  let start := rest
  match rest with
  | '[' :: more => do
    let (key, rest) ← readKey more
    match rest with
    | ']' :: ']' :: more =>
      match root.openItem key with
      | .error cause => .error (cause, start)
      | .ok root =>
        let rest ← readLineEnd false more
        return (key, root, rest)
    | _ => .error (.unclosedArrayTable, rest)
  | _ => do
    let (key, rest) ← readKey rest
    match rest with
    | ']' :: more =>
      match root.openTable key with
      | .error cause => .error (cause, start)
      | .ok root =>
        let rest ← readLineEnd false more
        return (key, root, rest)
    | _ => .error (.unclosedTable, rest)

/-- Reads a key and its value into the table at a path. -/
def readKeyValue (path : List String) (root : Members) (rest : List Char) :
    Step (Members × List Char) := do
  let start := rest
  let (key, rest) ← readKey rest
  match rest with
  | '=' :: more =>
    let (value, rest) ← readValue (more.length + 1) 0 (skipBlanks more)
    match Members.within false (Members.addValue key value) path .named root with
    | .error cause => .error (cause, start)
    | .ok (_, root) =>
      let rest ← readLineEnd false rest
      return (root, rest)
  | _ => .error (.missingEquals, rest)

/-- Reads the lines of a document; `path` leads to the table of the last header. -/
def readLines : Nat → List String → Members → List Char → Step Members
  | 0, _, root, _ => .ok root
  | fuel + 1, path, root, rest => do
    let rest ← skipFiller false rest
    match rest with
    | [] => return root
    | '[' :: more =>
      let (path, root, rest) ← readHeader root more
      readLines fuel path root rest
    | _ =>
      let (root, rest) ← readKeyValue path root rest
      readLines fuel path root rest

/-- The members of the document that a text holds, in the order of keys.  A byte order mark at the
beginning does not count. -/
def membersOfText (text : String) : Except Error (List (String × Value)) :=
  let whole := text.toList
  let body := if whole.head? = some (Char.ofNat 0xFEFF) then whole.drop 1 else whole
  match readLines (body.length + 1) [] [] body with
  | .ok root => .ok (finishMembers root)
  | .error (cause, rest) => .error (.malformed cause (.ofOffset whole (whole.length - rest.length)))

/-- Whether a text is a document whose whole numbers all fit in 64 bits, as every reader of
documents is bound to take them. -/
def isPortable (text : String) : Bool :=
  match membersOfText text with
  | .ok members => (Value.table members).isPortable
  | .error _ => false

end SmellRefactor.Toml
