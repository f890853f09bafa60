import SmellRefactor.Decimal.Numeral
import SmellRefactor.Toml.Error

/-!
# Reading TOML texts: blanks and strings

A step of reading takes the rest of the text and gives a value with what follows it, or a problem
together with the rest at which it was noticed.
-/

namespace SmellRefactor.Toml

/-- The result of a step of reading. -/
abbrev Step (α : Type) := Except (Cause × List Char) α

/-- Whether a character may not stand in comments and strings. -/
def isControl (c : Char) : Bool := (c.toNat < 0x20 && c != '\t') || c.toNat == 0x7F

/-- Skips spaces and tabs. -/
def skipBlanks (rest : List Char) : List Char := rest.dropWhile fun c => c == ' ' || c == '\t'

/-- Skips blanks, line ends and comments; the flag tells whether a comment has begun. -/
def skipFiller : Bool → List Char → Step (List Char)
  | _, [] => .ok []
  | comment, c :: rest =>
    if c = '\n' then skipFiller false rest
    else if c = '\r' then
      match rest with
      | '\n' :: more => skipFiller false more
      | _ => .error (.loneReturn, rest)
    else if comment then
      if isControl c then .error (.controlCharacter, c :: rest) else skipFiller true rest
    else if c = ' ' ∨ c = '\t' then skipFiller false rest
    else if c = '#' then skipFiller true rest
    else .ok (c :: rest)

/-- Reads the end of a line: blanks, a comment, and a line end or the end of the text. -/
def readLineEnd : Bool → List Char → Step (List Char)
  | _, [] => .ok []
  | comment, c :: rest =>
    if c = '\n' then .ok rest
    else if c = '\r' then
      match rest with
      | '\n' :: more => .ok more
      | _ => .error (.loneReturn, rest)
    else if comment then
      if isControl c then .error (.controlCharacter, c :: rest) else readLineEnd true rest
    else if c = ' ' ∨ c = '\t' then readLineEnd false rest
    else if c = '#' then readLineEnd true rest
    else .error (.trailingText, c :: rest)

/-- Reads a number of exactly so many hexadecimal digits. -/
def readHex : Nat → Nat → List Char → Option (Nat × List Char)
  | 0, n, rest => some (n, rest)
  | _ + 1, _, [] => none
  | count + 1, n, c :: rest =>
    match Decimal.digitValue? 16 c with
    | some d => readHex count (n * 16 + d) rest
    | none => none

/-- The character with a code point, if it is one. -/
def scalar? (n : Nat) : Option Char := if h : n.isValidChar then some (Char.ofNatAux n h) else none

/-- Reads an escape behind its backslash. -/
def readEscape (rest : List Char) : Step (Char × List Char) :=
  let coded (count : Nat) (rest : List Char) : Step (Char × List Char) :=
    match readHex count 0 rest with
    | none => .error (.invalidEscape, rest)
    | some (n, more) =>
      match scalar? n with
      | some c => .ok (c, more)
      | none => .error (.invalidEscape, rest)
  match rest with
  | '"' :: more => .ok ('"', more)
  | '\\' :: more => .ok ('\\', more)
  | 'b' :: more => .ok (Char.ofNat 8, more)
  | 'e' :: more => .ok (Char.ofNat 27, more)
  | 'f' :: more => .ok (Char.ofNat 12, more)
  | 'n' :: more => .ok ('\n', more)
  | 'r' :: more => .ok ('\r', more)
  | 't' :: more => .ok ('\t', more)
  | 'x' :: more => coded 2 more
  | 'u' :: more => coded 4 more
  | 'U' :: more => coded 8 more
  | _ => .error (.invalidEscape, rest)

/-- Adds a character in front of a text that has been read. -/
def prepend (c : Char) (result : Step (List Char × List Char)) : Step (List Char × List Char) :=
  result.map fun (text, rest) => (c :: text, rest)

/-- Reads a quoted text on one line, behind its opening quote. -/
def readBasic : Nat → List Char → Step (List Char × List Char)
  | 0, rest => .error (.unclosedText, rest)
  | _ + 1, [] => .error (.unclosedText, [])
  | fuel + 1, c :: rest =>
    if c = '"' then .ok ([], rest)
    else if c = '\\' then
      match readEscape rest with
      | .error e => .error e
      | .ok (d, rest) => prepend d (readBasic fuel rest)
    else if isControl c then .error (.unclosedText, c :: rest)
    else prepend c (readBasic fuel rest)

/-- Reads a literal text on one line, behind its opening apostrophe. -/
def readLiteral : List Char → Step (List Char × List Char)
  | [] => .error (.unclosedText, [])
  | c :: rest =>
    if c = '\'' then .ok ([], rest)
    else if isControl c then .error (.unclosedText, c :: rest)
    else prepend c (readLiteral rest)

/-- A text over several lines begins behind a line end that directly follows its quotes. -/
def dropFirstLineEnd : List Char → List Char
  | '\n' :: rest => rest
  | '\r' :: '\n' :: rest => rest
  | rest => rest

/-- Skips the blanks and line ends behind a backslash at the end of a line. -/
def skipContinuation : List Char → Option (List Char)
  | '\n' :: rest => some (rest.dropWhile fun c => c == ' ' || c == '\t' || c == '\n' || c == '\r')
  | '\r' :: '\n' :: rest =>
    some (rest.dropWhile fun c => c == ' ' || c == '\t' || c == '\n' || c == '\r')
  | ' ' :: rest => skipContinuation rest
  | '\t' :: rest => skipContinuation rest
  | _ => none

/-- Reads a text over several lines up to three quotes; one or two more quotes before them belong
to the text.  `escapes` tells whether backslashes escape. -/
def readLong (quote : Char) (escapes : Bool) : Nat → List Char → Step (List Char × List Char)
  | 0, rest => .error (.unclosedText, rest)
  | _ + 1, [] => .error (.unclosedText, [])
  | fuel + 1, c :: rest =>
    if c = quote then
      let run := 1 + (rest.takeWhile (· == quote)).length
      if run < 3 then prepend c (readLong quote escapes fuel rest)
      else
        let kept := min run 5 - 3
        .ok (List.replicate kept quote, rest.drop (kept + 2))
    else if c = '\\' && escapes then
      match skipContinuation rest with
      | some rest => readLong quote escapes fuel rest
      | none =>
        match readEscape rest with
        | .error e => .error e
        | .ok (d, rest) => prepend d (readLong quote escapes fuel rest)
    else if c = '\r' && rest.head? != some '\n' then .error (.loneReturn, rest)
    else if isControl c && c != '\n' && c != '\r' then .error (.controlCharacter, c :: rest)
    else prepend c (readLong quote escapes fuel rest)

/-- Reads a text of any of the four forms. -/
def readText (rest : List Char) : Step (String × List Char) :=
  let result := match rest with
    | '"' :: '"' :: '"' :: more => readLong '"' true (more.length + 1) (dropFirstLineEnd more)
    | '\'' :: '\'' :: '\'' :: more => readLong '\'' false (more.length + 1) (dropFirstLineEnd more)
    | '"' :: more => readBasic (more.length + 1) more
    | '\'' :: more => readLiteral more
    | _ => .error (.missingValue, rest)
  result.map fun (text, rest) => (String.ofList text, rest)

/-- Whether a character may stand in a key without quotes. -/
def isBare (c : Char) : Bool := c.isAlphanum || c == '-' || c == '_'

/-- Reads one part of a key. -/
def readKeyPart (rest : List Char) : Step (String × List Char) :=
  match rest with
  | '"' :: more => (readBasic (more.length + 1) more).map fun (t, r) => (String.ofList t, r)
  | '\'' :: more => (readLiteral more).map fun (t, r) => (String.ofList t, r)
  | _ =>
    let word := rest.takeWhile isBare
    if word.isEmpty then .error (.invalidKey, rest)
    else .ok (String.ofList word, rest.dropWhile isBare)

/-- How deep lists and inline tables may be nested, and how many parts a key may have. -/
def maxDepth : Nat := 80

/-- Reads the parts of a key, with points between them, of which there may be so many more. -/
def readKeyParts : Nat → List Char → Step (List String × List Char)
  | 0, rest => .error (.tooDeep, rest)
  | room + 1, rest => do
    let (part, rest) ← readKeyPart (skipBlanks rest)
    match skipBlanks rest with
    | '.' :: more =>
      let (parts, rest) ← readKeyParts room more
      return (part :: parts, rest)
    | other => return ([part], other)

/-- Reads a key. -/
def readKey (rest : List Char) : Step (List String × List Char) := readKeyParts maxDepth rest

end SmellRefactor.Toml
