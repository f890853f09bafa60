import SmellRefactor.Shell.Field

/-!
# Parameters

What stands behind a dollar sign: the name of a parameter, possibly with a place in a list of
values, and what is done with its value.
-/

namespace SmellRefactor.Shell

/-- Which values are meant. -/
structure Reference where
  name : List Char
  /-- The place in a list of values. -/
  subscript : Option (List Char)
  /-- Whether the value is the name of the parameter that is meant. -/
  indirect : Bool
deriving Repr

/-- What is done with values. -/
inductive Operation where
  | none
  /-- Gives the number of bytes, or of values. -/
  | length
  /-- Gives the keys. -/
  | keys
  /-- Gives the names that begin with a name. -/
  | names
  /-- Puts a word in the place of a value, or a value in the place of nothing. -/
  | instead (operator : String) (word : List Char)
  /-- Takes off what a pattern matches at one end. -/
  | trim (operator : String) (pattern : List Char)
  /-- Puts a word into the places that a pattern matches. -/
  | replace (operator : String) (pattern word : List Char)
  /-- Gives the part from some place on, of a certain length. -/
  | slice (first : List Char) (length : Option (List Char))
  /-- Changes the case of the letters that a pattern matches. -/
  | changeCase (operator : String) (pattern : List Char)
  /-- Writes the value with quotes. -/
  | quoted
deriving Repr

/-- The name of a parameter and what stands behind it. -/
def splitParameter (body : List Char) : List Char × List Char :=
  match body with
  | [] => ([], [])
  | c :: rest =>
    if isNameStart c then (body.takeWhile isNameChar, body.dropWhile isNameChar)
    else if c.isDigit then (body.takeWhile Char.isDigit, body.dropWhile Char.isDigit)
    else if specialParameters.contains c then ([c], rest)
    else ([], body)

/-- The reference with which a text begins, and what stands behind it. -/
def readReference (dialect : Dialect) (indirect : Bool) (body : List Char) :
    Reference × List Char :=
  let (name, rest) := splitParameter body
  match dialect, rest with
  | .rich, '[' :: inner =>
    match inner.span (· ≠ ']') with
    | (place, ']' :: rest) => (⟨name, some place, indirect⟩, rest)
    | _ => (⟨name, none, indirect⟩, rest)
  | _, rest => (⟨name, none, indirect⟩, rest)

/-- The first part of a text up to a character that is neither quoted nor in a group, and what
stands behind that character, if it is there. -/
def splitOutside (mark : Char) : Nat → List Char → List Char × Option (List Char)
  | 0, text => (text, none)
  | _, [] => ([], none)
  | fuel + 1, c :: rest =>
    let more (taken rest : List Char) : List Char × Option (List Char) :=
      let (first, second) := splitOutside mark fuel rest
      (taken ++ first, second)
    let group (opening : Opening) : List Char × Option (List Char) :=
      match scanGroup [opening] rest with
      | some (_, behind) => more ((c :: rest).take (rest.length + 1 - behind.length)) behind
      | none => more [c] rest
    if c = mark then ([], some rest)
    else if c = '\\' then more ((c :: rest).take 2) rest.tail
    else if c = '\'' then group .single
    else if c = '"' then group .double
    else if c = '$' && rest.head? = some '\x7b' then
      match scanGroup [.brace] rest.tail with
      | some (_, behind) => more ((c :: rest).take (rest.length + 1 - behind.length)) behind
      | none => more [c] rest
    else if c = '$' && rest.head? = some '(' then
      match scanGroup [.paren] rest.tail with
      | some (_, behind) => more ((c :: rest).take (rest.length + 1 - behind.length)) behind
      | none => more [c] rest
    else more [c] rest

/-- The operators of the common language, longer ones first. -/
def commonOperators : List String :=
  [":-", ":=", ":?", ":+", "%%", "##", "-", "=", "?", "+", "%", "#"]

/-- What a text behind a reference asks for. -/
def readOperation (dialect : Dialect) (text : List Char) : Option Operation :=
  if text.isEmpty then some .none
  else
    let common := commonOperators.findSome? fun operator =>
      (dropStart operator.toList text).map fun word =>
        if ["%%", "##", "%", "#"].contains operator then Operation.trim operator word
        else .instead operator word
    match common, dialect with
    | some operation, _ => some operation
    | none, .plain => none
    | none, .rich =>
      match text with
      | '/' :: rest =>
        let (operator, rest) := match rest with
          | '/' :: rest => ("//", rest)
          | '#' :: rest => ("/#", rest)
          | '%' :: rest => ("/%", rest)
          | rest => ("/", rest)
        let (pattern, word) := match rest with
          | '/' :: more =>
            let (first, second) := splitOutside '/' (more.length + 1) more
            (if operator = "/" then '/' :: first else first, second)
          | rest => splitOutside '/' (rest.length + 1) rest
        some (.replace operator pattern (word.getD []))
      | ':' :: rest =>
        let (first, length) := splitOutside ':' (rest.length + 1) rest
        some (.slice first length)
      | '^' :: '^' :: pattern => some (.changeCase "^^" pattern)
      | '^' :: pattern => some (.changeCase "^" pattern)
      | ',' :: ',' :: pattern => some (.changeCase ",," pattern)
      | ',' :: pattern => some (.changeCase "," pattern)
      | ['@', 'Q'] => some .quoted
      | ['@', 'U'] => some (.changeCase "^^" [])
      | ['@', 'u'] => some (.changeCase "^" [])
      | ['@', 'L'] => some (.changeCase ",," [])
      | _ => none

/-- The parameter that a body between braces means, and what is done with it; nothing if it means
none. -/
def readParameter (dialect : Dialect) (body : List Char) : Option (Reference × Operation) :=
  let whole (body : List Char) (indirect : Bool) : Option (Reference × Operation) :=
    let (reference, rest) := readReference dialect indirect body
    if reference.name.isEmpty then none
    else (readOperation dialect rest).map fun operation => (reference, operation)
  match body with
  | '#' :: rest =>
    let (reference, behind) := readReference dialect false rest
    if !reference.name.isEmpty && behind.isEmpty then some (reference, .length)
    else whole body false
  | '!' :: rest =>
    if dialect = .rich && !rest.isEmpty then
      let (reference, behind) := readReference dialect false rest
      match behind with
      | ['*'] | ['@'] => some (reference, .names)
      | _ =>
        if behind.isEmpty && reference.subscript.any fun s => s = ['@'] || s = ['*'] then
          some (reference, .keys)
        else whole rest true
    else whole body false
  | body => whole body false

/-! ## Values -/

/-- The splits of a text into a beginning and a rest, shortest beginning first. -/
def splits (text : List Char) : List (List Char × List Char) :=
  (List.range (text.length + 1)).map fun n => (text.take n, text.drop n)

/-- The text without the part that a pattern matches at one of its ends. -/
def trimMatch (operator : String) (pattern : List Matcher) (text : List Char) : List Char :=
  let keepRest (candidates : List (List Char × List Char)) : List Char :=
    ((candidates.find? fun s => matchesAll pattern s.1).map Prod.snd).getD text
  let keepStart (candidates : List (List Char × List Char)) : List Char :=
    ((candidates.find? fun s => matchesAll pattern s.2).map Prod.fst).getD text
  match operator with
  | "#" => keepRest (splits text)
  | "##" => keepRest (splits text).reverse
  | "%" => keepStart (splits text).reverse
  | "%%" => keepStart (splits text)
  | _ => text

/-- The longest beginning of a text that a pattern matches, and the rest. -/
def longestStart? (pattern : List Matcher) (text : List Char) : Option (List Char × List Char) :=
  (splits text).reverse.find? fun s => matchesAll pattern s.1

/-- The text with a word in the places that a pattern matches. -/
def replaceAll (pattern : List Matcher) (word : List Char) : Nat → List Char → List Char
  | 0, text => text
  | _, [] => []
  | fuel + 1, c :: rest =>
    match longestStart? pattern (c :: rest) with
    | some (_ :: _, behind) => word ++ replaceAll pattern word fuel behind
    | _ => c :: replaceAll pattern word fuel rest

/-- The text with a word in the first place that a pattern matches. -/
def replaceFirst (pattern : List Matcher) (word : List Char) : List Char → List Char
  | [] => []
  | c :: rest =>
    match longestStart? pattern (c :: rest) with
    | some (_ :: _, behind) => word ++ behind
    | _ => c :: replaceFirst pattern word rest

/-- The text with a word in the places that an operator and a pattern choose. -/
def replaceMatches (operator : String) (pattern : List Matcher) (word text : List Char) :
    List Char :=
  match operator with
  | "//" => replaceAll pattern word (text.length + 1) text
  | "/#" =>
    match longestStart? pattern text with
    | some (_, behind) => word ++ behind
    | none => text
  | "/%" =>
    match (splits text).find? fun s => matchesAll pattern s.2 with
    | some (before, _) => before ++ word
    | none => text
  | _ => if pattern.isEmpty then text else replaceFirst pattern word text

/-- The text with the case of its letters changed where a pattern matches. -/
def changeCases (operator : String) (pattern : List Matcher) (text : List Char) : List Char :=
  let change (c : Char) : Char :=
    if pattern.isEmpty || matchesAll pattern [c] then
      if operator.startsWith "^" then c.toUpper else c.toLower
    else c
  if operator.length = 2 then text.map change
  else match text with
  | [] => []
  | c :: rest => change c :: rest

/-- The part of a list from a place on, of a certain length; a negative place counts from the end,
and a negative length gives the place where the part ends. -/
def sliceOf (items : List α) (first : Int) (length : Option Int) : List α :=
  let size : Int := items.length
  let start := if first < 0 then size + first else first
  if start < 0 then []
  else
    let rest := items.drop start.toNat
    match length with
    | none => rest
    | some n =>
      if 0 ≤ n then rest.take n.toNat else rest.take ((rest.length : Int) + n).toNat

/-- Whether a character can stand in a shell script without quotes. -/
def isHarmless (c : Char) : Bool := c.isAlphanum || "_-./:=@%^,+".toList.contains c

/-- A text between apostrophes. -/
def inApostrophes (text : String) : String :=
  "'" ++ text.replace "'" "'\\''" ++ "'"

/-- The escape of a character between apostrophes behind a dollar sign. -/
def escapedChar (c : Char) : List Char :=
  match c with
  | '\n' => ['\\', 'n']
  | '\t' => ['\\', 't']
  | '\r' => ['\\', 'r']
  | '\x1b' => ['\\', 'E']
  | '\x07' => ['\\', 'a']
  | '\x08' => ['\\', 'b']
  | '\x0c' => ['\\', 'f']
  | '\x0b' => ['\\', 'v']
  | '\'' => ['\\', '\'']
  | '\\' => ['\\', '\\']
  | c =>
    if c.toNat < 0x20 || 0x7F ≤ c.toNat then
      let digits := Nat.toDigits 8 c.toNat
      '\\' :: (List.replicate (3 - digits.length) '0' ++ digits)
    else [c]

/-- Whether a text holds characters that need an escape. -/
def needsEscapes (text : String) : Bool :=
  text.toList.any fun c => c.toNat < 0x20 || 0x7F ≤ c.toNat

/-- A text with escapes between apostrophes behind a dollar sign. -/
def inEscapes (text : String) : String :=
  "$'" ++ String.ofList (text.toList.flatMap escapedChar) ++ "'"

/-- A text as it can be read again, with a backslash before every character that has a meaning. -/
def backslashed (text : String) : String :=
  if text.isEmpty then "''"
  else if needsEscapes text then inEscapes text
  else String.ofList (text.toList.flatMap fun c =>
    if isHarmless c && c ≠ '^' && c ≠ ',' then [c] else ['\\', c])

end SmellRefactor.Shell
