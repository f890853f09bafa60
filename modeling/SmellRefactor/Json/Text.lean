import SmellRefactor.Decimal.Numeral
import SmellRefactor.Json.Cursor

/-!
# JSON strings

Writing a text between quotes, and reading it back.  Reading has two forms: `readText` gives the
text, `skipText` only looks for its end and leaves surrogates unchecked.
-/

namespace SmellRefactor.Json

/-- How one character is written between quotes. -/
def escapeChar (c : Char) : List Char :=
  if c = '"' then ['\\', '"']
  else if c = '\\' then ['\\', '\\']
  else if c = '\n' then ['\\', 'n']
  else if c = '\r' then ['\\', 'r']
  else if c = '\t' then ['\\', 't']
  else if c.toNat = 8 then ['\\', 'b']
  else if c.toNat = 12 then ['\\', 'f']
  else if c.toNat < 16 then ['\\', 'u', '0', '0', '0', Nat.digitChar c.toNat]
  else if c.toNat < 32 then ['\\', 'u', '0', '0', '1', Nat.digitChar (c.toNat - 16)]
  else [c]

/-- The text between quotes. -/
def writeText (text : String) : List Char :=
  '"' :: (text.toList.flatMap escapeChar ++ ['"'])

/-- The character that a short escape stands for. -/
def shortEscape? : Char → Option Char
  | '"' => some '"'
  | '\\' => some '\\'
  | '/' => some '/'
  | 'b' => some (Char.ofNat 8)
  | 'f' => some (Char.ofNat 12)
  | 'n' => some '\n'
  | 'r' => some '\r'
  | 't' => some '\t'
  | _ => none

/-- The number written by four hexadecimal digits. -/
def hexFour? (a b c d : Char) : Option Nat := do
  let a ← Decimal.digitValue? 16 a
  let b ← Decimal.digitValue? 16 b
  let c ← Decimal.digitValue? 16 c
  let d ← Decimal.digitValue? 16 d
  return ((a * 16 + b) * 16 + c) * 16 + d

/-- The place behind four bytes, or the end of the text and `false` when fewer are left. -/
def fourBytes (p : Position) : Nat → List Char → Bool × Position
  | 0, _ => (true, p)
  | _ + 1, [] => (false, p)
  | n + 1, c :: rest =>
    if c = '\n' then fourBytes (p.after c) n rest
    else if c.utf8Size ≤ n + 1 then fourBytes (p.after c) (n + 1 - c.utf8Size) rest
    else (true, ⟨p.line, p.column + (n + 1)⟩)
termination_by _ rest => rest.length

/-- What follows `\u`: the number of four hexadecimal digits with the rest and its place. -/
def readHexFour (rest : List Char) (p : Position) : Except Error (Nat × List Char × Position) :=
  match fourBytes p 4 rest with
  | (false, stop) => .error ⟨.endInString, stop⟩
  | (true, stop) =>
    match rest with
    | a :: b :: c :: d :: rest =>
      match hexFour? a b c d with
      | some n => .ok (n, rest, stop)
      | none => .error ⟨.invalidEscape, stop⟩
    | _ => .error ⟨.invalidEscape, stop⟩

/-- Whether a number is the second half of a surrogate pair. -/
def isTrailing (n : Nat) : Bool := 0xDC00 ≤ n && n ≤ 0xDFFF

/-- Whether a number is the first half of a surrogate pair. -/
def isLeading (n : Nat) : Bool := 0xD800 ≤ n && n ≤ 0xDBFF

/-- Reads what follows the first half of a surrogate pair, and gives the character of the pair. -/
def readTrailing (leading : Nat) (rest : List Char) (p : Position) :
    Except Error (Char × List Char × Position) :=
  match rest with
  | [] => .error ⟨.endInString, p⟩
  | '\\' :: rest =>
    let p := p.after '\\'
    match rest with
    | [] => .error ⟨.endInString, p⟩
    | 'u' :: rest =>
      match readHexFour rest (p.after 'u') with
      | .error e => .error e
      | .ok (n, rest, p) =>
        if isTrailing n then
          .ok (Char.ofNat ((leading - 0xD800) * 0x400 + (n - 0xDC00) + 0x10000), rest, p)
        else .error ⟨.loneSurrogate, p⟩
    | c :: _ => .error ⟨.unfinishedSurrogate, p.afterByte c⟩
  | c :: _ => .error ⟨.unfinishedSurrogate, p.afterByte c⟩

/-- Reads an escape behind its backslash. -/
def readEscape (rest : List Char) (p : Position) : Except Error (Char × List Char × Position) :=
  match rest with
  | [] => .error ⟨.endInString, p⟩
  | 'u' :: rest =>
    match readHexFour rest (p.after 'u') with
    | .error e => .error e
    | .ok (n, rest, p) =>
      if isTrailing n then .error ⟨.loneSurrogate, p⟩
      else if isLeading n then readTrailing n rest p
      else .ok (Char.ofNat n, rest, p)
  | c :: rest =>
    match shortEscape? c with
    | some d => .ok (d, rest, p.after c)
    | none => .error ⟨.invalidEscape, p.afterByte c⟩

/-- Reads the characters of a text up to its closing quote.  The number bounds the characters that
may still be read. -/
def readChars : Nat → List Char → Position → Except Error (List Char × Cursor)
  | 0, _, p => .error ⟨.endInString, p⟩
  | _ + 1, [], p => .error ⟨.endInString, p⟩
  | fuel + 1, c :: rest, p =>
    if c = '"' then .ok ([], ⟨rest, p.after c⟩)
    else if c = '\\' then
      match readEscape rest (p.after c) with
      | .error e => .error e
      | .ok (d, rest, p) =>
        match readChars fuel rest p with
        | .error e => .error e
        | .ok (text, cursor) => .ok (d :: text, cursor)
    else if c.toNat < 32 then .error ⟨.controlCharacter, p.afterByte c⟩
    else
      match readChars fuel rest (p.after c) with
      | .error e => .error e
      | .ok (text, cursor) => .ok (c :: text, cursor)

/-- Reads a text whose opening quote has been read. -/
def readText : Reader String := fun c =>
  match readChars (c.rest.length + 1) c.rest c.position with
  | .error e => .error e
  | .ok (text, c) => .ok (String.ofList text, c)

/-- Looks for the end of a text that is not needed. -/
def skipChars : Nat → List Char → Position → Except Error Cursor
  | 0, _, p => .error ⟨.endInString, p⟩
  | _ + 1, [], p => .error ⟨.endInString, p⟩
  | fuel + 1, c :: rest, p =>
    if c = '"' then .ok ⟨rest, p.after c⟩
    else if c = '\\' then
      let p := p.after c
      match rest with
      | [] => .error ⟨.endInString, p⟩
      | 'u' :: rest =>
        match readHexFour rest (p.after 'u') with
        | .error e => .error e
        | .ok (_, rest, p) => skipChars fuel rest p
      | d :: rest =>
        match shortEscape? d with
        | some _ => skipChars fuel rest (p.after d)
        | none => .error ⟨.invalidEscape, p.afterByte d⟩
    else if c.toNat < 32 then .error ⟨.controlCharacter, p⟩
    else skipChars fuel rest (p.after c)

/-- Skips a text whose opening quote has been read. -/
def skipText (c : Cursor) : Except Error Cursor :=
  skipChars (c.rest.length + 1) c.rest c.position

end SmellRefactor.Json
