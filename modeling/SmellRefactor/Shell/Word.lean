import SmellRefactor.Decimal.Numeral
import SmellRefactor.Shell.ByteText

/-!
# Words of shell scripts

A word is a sequence of pieces: text, and places where something is to be filled in.  Quotes are
taken off when a word is read; each piece remembers whether it stood in quotes, because what is
filled in without quotes falls apart at blanks.
-/

namespace SmellRefactor.Shell

/-- A part of a word. -/
inductive Piece where
  | text (content : List Char) (quoted : Bool)
  /-- A parameter: what stands behind the dollar sign, without braces. -/
  | parameter (body : List Char) (quoted : Bool)
  /-- The output of a script. -/
  | script (source : List Char) (quoted : Bool)
  /-- The value of an expression. -/
  | arithmetic (expression : List Char) (quoted : Bool)
  /-- The path of a file that holds the output of a script. -/
  | document (source : List Char)
deriving DecidableEq, Repr

/-- Whether a script is to be run for a piece. -/
def Piece.isScript : Piece → Bool
  | script .. => true
  | _ => false

/-- The piece as if it stood in quotes. -/
def Piece.inQuotes : Piece → Piece
  | text content _ => text content true
  | parameter body _ => parameter body true
  | script source _ => script source true
  | arithmetic expression _ => arithmetic expression true
  | document source => document source

/-- A word of a script. -/
abbrev Word := List Piece

/-- The text of a word that has neither quotes nor anything to fill in. -/
def Word.bare? : Word → Option String
  | [.text content false] => some (String.ofList content)
  | _ => none

/-- The text of a word in which nothing is to be filled in, and whether some of it was quoted. -/
def Word.literal (word : Word) : String × Bool :=
  (String.ofList (word.flatMap fun piece =>
    match piece with
    | .text content _ => content
    | .parameter body _ => '$' :: body
    | _ => []),
   word.any fun piece => match piece with | .text _ quoted => quoted | _ => false)

/-- A group that has been opened and not yet closed. -/
inductive Opening where
  | paren
  | brace
  /-- A brace in quotes, where apostrophes stand for themselves. -/
  | quotedBrace
  | double
  | single
deriving DecidableEq, Repr

/-- Whether a text behind an opening brace asks for something that a pattern is part of. -/
def asksForPattern (text : List Char) : Bool :=
  let isNamePart (c : Char) : Bool := c.isAlphanum || c == '_' || c == '@' || c == '*' || c == '!'
  let operator := (text.dropWhile isNamePart).head?
  (text.head?.any isNamePart) && operator.any fun c => ['#', '%', '/', '^', ','].contains c

/-- What a brace opens that stands in quotes or not, given what stands behind it. -/
def braceOpening (quoted : Bool) (text : List Char) : Opening :=
  if quoted && !asksForPattern text then .quotedBrace else .brace

/-- Whether what stands in a group is in double quotes. -/
def Opening.isQuoted : Opening → Bool
  | double | quotedBrace => true
  | _ => false

/-- The text up to the end of the innermost groups, and what comes behind. -/
def scanGroup : List Opening → List Char → Option (List Char × List Char)
  | [], rest => some ([], rest)
  | _ :: _, [] => none
  | .single :: outer, c :: rest =>
    if c = '\'' then close outer c (scanGroup outer rest)
    else keep [c] (scanGroup (.single :: outer) rest)
  | stack, '\\' :: c :: rest => keep ['\\', c] (scanGroup stack rest)
  | stack, '$' :: '(' :: rest => keep ['$', '('] (scanGroup (.paren :: stack) rest)
  | opening :: outer, '$' :: '\x7b' :: rest =>
    let inner := braceOpening opening.isQuoted rest
    keep ['$', '\x7b'] (scanGroup (inner :: opening :: outer) rest)
  | .double :: outer, c :: rest =>
    if c = '"' then close outer c (scanGroup outer rest)
    else keep [c] (scanGroup (.double :: outer) rest)
  | opening :: outer, '\'' :: rest =>
    if opening = .quotedBrace then keep ['\''] (scanGroup (opening :: outer) rest)
    else keep ['\''] (scanGroup (.single :: opening :: outer) rest)
  | opening :: outer, '"' :: rest => keep ['"'] (scanGroup (.double :: opening :: outer) rest)
  | .paren :: outer, c :: rest =>
    if c = ')' then close outer c (scanGroup outer rest)
    else if c = '(' then keep [c] (scanGroup (.paren :: .paren :: outer) rest)
    else keep [c] (scanGroup (.paren :: outer) rest)
  | opening :: outer, c :: rest =>
    if c = '\x7d' then close outer c (scanGroup outer rest)
    else keep [c] (scanGroup (opening :: outer) rest)
where
  keep (taken : List Char) : Option (List Char × List Char) → Option (List Char × List Char) :=
    Option.map fun (inner, rest) => (taken ++ inner, rest)
  close (outer : List Opening) (c : Char) :
      Option (List Char × List Char) → Option (List Char × List Char) :=
    if outer.isEmpty then id else keep [c]

/-- Whether a character may begin the name of a variable. -/
def isNameStart (c : Char) : Bool := c.isAlpha || c == '_'

/-- Whether a character may stand in the name of a variable. -/
def isNameChar (c : Char) : Bool := c.isAlphanum || c == '_'

/-- Whether a text is the name of a variable. -/
def isName : List Char → Bool
  | [] => false
  | c :: rest => isNameStart c && rest.all isNameChar

/-- The characters that name a parameter of their own. -/
def specialParameters : List Char := ['@', '*', '#', '?', '$', '!', '-']

/-- Whether a character ends a word that is not in quotes. -/
def endsWord (c : Char) : Bool := [' ', '\t', '\n', ';', '&', '|', '<', '>', '(', ')'].contains c

/-- How far pieces are read, and what quotes mean there. -/
inductive Reach where
  /-- Up to the end of a word. -/
  | word
  /-- Up to the closing double quote. -/
  | quotes
  /-- To the end of the text, as in a word. -/
  | operand
  /-- To the end of the text, as in double quotes; inner double quotes are taken off. -/
  | quotedOperand
  /-- To the end of the text, as in double quotes, which mean nothing themselves. -/
  | document
  /-- Up to a blank that stands outside of all brackets, as in a regular expression. -/
  | expression (depth : Nat)
deriving DecidableEq, Repr

namespace Reach

/-- Whether what is filled in stays whole. -/
def isQuoted : Reach → Bool
  | quotes | quotedOperand | document => true
  | word | operand | expression _ => false

/-- Whether pieces end before a character. -/
def endsBefore (reach : Reach) (c : Char) : Bool :=
  match reach with
  | word => endsWord c
  | expression depth => (depth = 0 && (c = ' ' || c = '\t')) || c = '\n'
  | _ => false

/-- The reach behind a character. -/
def behind (reach : Reach) (c : Char) : Reach :=
  match reach with
  | expression depth =>
    if c = '(' then expression (depth + 1) else if c = ')' then expression (depth - 1) else reach
  | reach => reach

end Reach

/-- How often a word stands in a text. -/
def wordCount (word : List Char) (text : List Char) : Nat :=
  let words := text.foldr
    (fun c words =>
      match words with
      | w :: others => if isNameChar c then (c :: w) :: others else [] :: w :: others
      | [] => [[]]) [[]]
  words.count word

/-- Whether a text holds the beginning of a selection and not its end; the parentheses behind its
patterns close nothing. -/
def isWithinSelection (text : List Char) : Bool :=
  wordCount ['e', 's', 'a', 'c'] text < wordCount ['c', 'a', 's', 'e'] text

/-- What ends the documents that a line announces, each with whether tabs may stand before it.
`quote` is the quote that is open. -/
def announced : Option Char → List Char → List (Bool × List Char)
  | some quote, c :: rest => announced (if c = quote then none else some quote) rest
  | none, '\\' :: _ :: rest => announced none rest
  | none, '<' :: '<' :: '<' :: rest => announced none rest
  | none, '<' :: '<' :: rest =>
    let (tabs, text) := match rest with
      | '-' :: text => (true, text)
      | text => (false, text)
    let text := text.dropWhile fun c => c = ' ' || c = '\t'
    let stop := (text.takeWhile fun c => !endsWord c).filter fun c => !(['\'', '"', '\\'].contains c)
    if stop.isEmpty then announced none rest else (tabs, stop) :: announced none rest
  | none, c :: rest => announced (if c = '\'' || c = '"' then some c else none) rest
  | _, [] => []

/-- The lines of documents, up to their ends, and the lines behind them; nothing if one of them has
no end. -/
def splitDocuments : List (Bool × List Char) → List (List Char) →
    Option (List (List Char) × List (List Char))
  | [], lines => some ([], lines)
  | (tabs, stop) :: more, lines =>
    let isStop (line : List Char) : Bool :=
      (if tabs then line.dropWhile (· = '\t') else line) == stop
    let body := lines.takeWhile fun line => !isStop line
    match lines.drop body.length with
    | [] => none
    | last :: rest =>
      (splitDocuments more rest).map fun (others, rest) => (body ++ last :: others, rest)

/-- The lines of a script in which all characters of documents have been replaced, so that they
neither open nor close anything. -/
def withoutDocuments : Nat → List (List Char) → List (List Char)
  | 0, lines => lines
  | _, [] => []
  | fuel + 1, line :: lines =>
    match splitDocuments (announced none line) lines with
    | none => line :: withoutDocuments fuel lines
    | some (documents, rest) =>
      line :: documents.map (fun text => text.map fun _ => 'x') ++ withoutDocuments fuel rest

/-- The source of a script up to its closing parenthesis, and what comes behind; so many parentheses
may belong to the script itself. -/
def scanScript : Nat → List Char → Option (List Char × List Char)
  | 0, _ => none
  | fuel + 1, text =>
    let lines := text.splitOn '\n'
    let shown := ['\n'].intercalate (withoutDocuments lines.length lines)
    match scanGroup [.paren] shown with
    | none => none
    | some (source, rest) =>
      let (source, _) := extend fuel source rest
      some (text.take source.length, text.drop (source.length + 1))
where
  /-- Goes on behind a parenthesis that belongs to the script. -/
  extend : Nat → List Char → List Char → List Char × List Char
    | 0, source, rest => (source, rest)
    | fuel + 1, source, rest =>
      if isWithinSelection source then
        match scanGroup [.paren] rest with
        | none => (source, rest)
        | some (more, behind) => extend fuel (source ++ ')' :: more) behind
      else (source, rest)

/-- The result of a scan, with a complaint for a scan that has found no end. -/
def complete (complaint : String) : Option α → Except String α
  | some result => .ok result
  | none => .error complaint

/-- The complaint about a script that is not closed. -/
def openScript : String := "end of file unexpected (expecting \")\")"

/-- Said when a quote is not closed. -/
def openQuote : String := "Unterminated quoted string"

/-- What is filled in behind a dollar sign. -/
def readDollar (dialect : Dialect) (quoted : Bool) : List Char → Except String (Piece × List Char)
  | '(' :: '(' :: rest => do
    let (inner, rest') ← complete "Missing '))'" (scanGroup [.paren, .paren] rest)
    if inner.getLast? = some ')' then return (.arithmetic inner.dropLast quoted, rest')
    let (source, rest) ← complete openScript (scanScript (rest.length + 2) ('(' :: rest))
    return (.script source quoted, rest)
  | '(' :: rest => do
    let (source, rest) ← complete openScript (scanScript (rest.length + 1) rest)
    return (.script source quoted, rest)
  | '\x7b' :: rest => do
    let (body, rest) ← complete "Missing '\x7d'" (scanGroup [braceOpening quoted rest] rest)
    return (.parameter body quoted, rest)
  | c :: rest =>
    if isNameStart c then
      .ok (.parameter (c :: rest.takeWhile isNameChar) quoted, rest.dropWhile isNameChar)
    else if c.isDigit || specialParameters.contains c then .ok (.parameter [c] quoted, rest)
    else if dialect = .rich && !quoted && c = '"' then .ok (.text [] false, c :: rest)
    else .ok (.text ['$'] quoted, c :: rest)
  | [] => .ok (.text ['$'] quoted, [])

/-- The text between backquotes, in which a backslash protects a backslash, a dollar sign and a
backquote. -/
def scanBackquote : List Char → Option (List Char × List Char)
  | [] => none
  | '\x60' :: rest => some ([], rest)
  | '\\' :: c :: rest =>
    (scanBackquote rest).map fun (inner, rest) =>
      (if c = '\x60' ∨ c = '\\' ∨ c = '$' then c :: inner else '\\' :: c :: inner, rest)
  | c :: rest => (scanBackquote rest).map fun (inner, rest) => (c :: inner, rest)

/-- The value of the digits of a base with which a text begins, of which at most so many count, and
what comes behind them. -/
def readCode (base count : Nat) (text : List Char) : Char × List Char :=
  let digits := (text.take count).takeWhile (Decimal.isDigitOf base)
  (Char.ofNat (Decimal.valueOf base digits % 256), text.drop digits.length)

/-- The text between apostrophes behind a dollar sign, in which a backslash begins an escape. -/
def scanEscapes : Nat → List Char → Option (List Char × List Char)
  | 0, _ => none
  | _, [] => none
  | _, '\'' :: rest => some ([], rest)
  | fuel + 1, '\\' :: c :: rest =>
    let more (chars : List Char) (rest : List Char) : Option (List Char × List Char) :=
      (scanEscapes fuel rest).map fun (inner, rest) => (chars ++ inner, rest)
    match c with
    | 'n' => more ['\n'] rest
    | 't' => more ['\t'] rest
    | 'r' => more ['\r'] rest
    | 'a' => more ['\x07'] rest
    | 'b' => more ['\x08'] rest
    | 'f' => more ['\x0c'] rest
    | 'v' => more ['\x0b'] rest
    | 'e' | 'E' => more ['\x1b'] rest
    | '\\' | '\'' | '"' | '?' => more [c] rest
    | 'x' =>
      let (d, behind) := readCode 16 2 rest
      if behind.length = rest.length then more ['\\', 'x'] rest else more [d] behind
    | 'u' | 'U' =>
      let digits := (rest.take (if c = 'u' then 4 else 8)).takeWhile (Decimal.isDigitOf 16)
      let bytes := encoded (String.singleton (Char.ofNat (Decimal.valueOf 16 digits)))
      if digits.isEmpty then more ['\\', c] rest else more bytes.toList (rest.drop digits.length)
    | 'c' => more [Char.ofNat ((rest.headD '\x00').toNat % 32)] rest.tail
    | c =>
      if Decimal.isDigitOf 8 c then
        let (d, rest) := readCode 8 3 (c :: rest)
        more [d] rest
      else more ['\\', c] rest
  | fuel + 1, c :: rest => (scanEscapes fuel rest).map fun (inner, rest) => (c :: inner, rest)

/-- Reads pieces as far as they reach.  A text of `fuel` characters can be read. -/
def readPieces (dialect : Dialect) : Nat → Reach → List Char → Except String (Word × List Char)
  | _, reach, [] => if reach = .quotes then .error openQuote else .ok ([], [])
  | 0, _, _ => .error openQuote
  | fuel + 1, reach, c :: rest =>
    let quoted := reach.isQuoted
    let more (piece : Piece) (rest : List Char) : Except String (Word × List Char) := do
      let (pieces, rest) ← readPieces dialect fuel (reach.behind c) rest
      return (piece :: pieces, rest)
    let inQuotes (rest : List Char) : Except String (Word × List Char) := do
      let (inner, rest) ← readPieces dialect fuel .quotes rest
      let (pieces, rest) ← readPieces dialect fuel reach rest
      return ((if inner.isEmpty then [.text [] true] else inner) ++ pieces, rest)
    if c = '$' then
      match dialect, rest with
      | .rich, '\'' :: inner =>
        if quoted then more (.text [c] quoted) rest
        else do
          let (inner, rest) ← complete openQuote (scanEscapes (inner.length + 1) inner)
          more (.text inner true) rest
      | _, _ => do
        let (piece, rest) ← readDollar dialect quoted rest
        more piece rest
    else if c = '\x60' then do
      let (source, rest) ← complete "EOF in backquote substitution" (scanBackquote rest)
      more (.script source quoted) rest
    else if quoted then
      match c, rest with
      | '"', _ =>
        match reach with
        | .quotes => .ok ([], rest)
        | .document => more (.text [c] true) rest
        | _ => readPieces dialect fuel reach rest
      | '\\', e :: rest' =>
        if e = '\n' then readPieces dialect fuel reach rest'
        else if ['$', '\x60', '\\'].contains e || (e = '"' && reach ≠ .document) then
          more (.text [e] true) rest'
        else if e = '\x7d' && reach = .quotedOperand then more (.text [e] true) rest'
        else more (.text [c, e] true) rest'
      | _, _ => more (.text [c] true) rest
    else if dialect = .rich && c = '<' && rest.head? = some '(' && reach = .word then do
      let (source, rest) ← complete openScript (scanGroup [.paren] rest.tail)
      more (.document source) rest
    else if reach.endsBefore c then .ok ([], c :: rest)
    else
      match c, rest with
      | '\'', _ => do
        let (inner, rest) ← complete openQuote (scanGroup [.single] rest)
        more (.text inner true) rest
      | '"', _ => inQuotes rest
      | '\\', e :: rest' =>
        if e = '\n' then readPieces dialect fuel reach rest' else more (.text [e] true) rest'
      | _, _ => more (.text [c] false) rest

/-- Joins neighbouring pieces of text that are both quoted or both not. -/
def Word.joined : Word → Word
  | .text a p :: rest =>
    match joined rest with
    | .text b q :: rest =>
      if p = q then .text (a ++ b) p :: rest else .text a p :: .text b q :: rest
    | rest => .text a p :: rest
  | piece :: rest => piece :: joined rest
  | [] => []

/-- Reads a word. -/
def readWord (dialect : Dialect) (text : List Char) : Except String (Word × List Char) := do
  let (word, rest) ← readPieces dialect (text.length + 1) .word text
  return (word.joined, rest)

/-- Reads a whole text in one of the ways that reach to its end. -/
def readWhole (dialect : Dialect) (reach : Reach) (text : List Char) : Except String Word := do
  let (word, _) ← readPieces dialect (text.length + 1) reach text
  return word.joined

end SmellRefactor.Shell
