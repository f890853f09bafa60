import SmellRefactor.Shell.Expression.Reader
import SmellRefactor.Shell.Format
import SmellRefactor.Shell.Utility.Rules.Program

/-!
# The words of programs of rules

A program is cut into tokens before it is read.  Whether a slash divides or begins an expression
follows from the token before it.
-/

namespace SmellRefactor.Shell.Rules

open Decimal

/-- A token of a program. -/
inductive Token where
  | number (x : Binary64) (source : String)
  | literal (s : String)
  | pattern (source : List Char)
  | name (s : String)
  /-- A name right before a parenthesis. -/
  | callee (s : String)
  | word (s : String)
  | mark (s : String)
  | newline
  | stop
  /-- A text or an expression that does not end on its line. -/
  | unended (kind source : String)
  | strange (c : Char)
deriving Repr

instance : Inhabited Token := ⟨.stop⟩

namespace Token

/-- A token as it is shown in a complaint. -/
def shown : Token → String
  | number _ source => source
  | literal s => s
  | pattern source => "/" ++ String.ofList source ++ "/"
  | name s | callee s | word s | mark s => s
  | newline => "end of line"
  | stop => "end of file"
  | unended _ source => source
  | strange c => c.toString

/-- The words with a meaning. -/
def words : List String :=
  ["BEGIN", "END", "function", "if", "else", "while", "for", "do", "break", "continue",
    "next", "nextfile", "exit", "return", "delete", "in", "getline", "print", "printf", "split",
    "sub", "gsub", "match"] ++ Operation.table.map Prod.fst

/-- The marks, those that begin with others first. -/
def marks : List String :=
  ["++", "--", "+=", "-=", "*=", "/=", "%=", "^=", "==", "!=", "<=", ">=", ">>", "&&", "||", "!~",
    "+", "-", "*", "/", "%", "^", "=", "<", ">", "!", "~", "?", ":", ",", ";", "(", ")", "\x7b",
    "\x7d", "[", "]", "$", "|"]

/-- Whether a slash behind a token divides. -/
def isDivisible : Token → Bool
  | number _ _ | literal _ | pattern _ | name _ => true
  | word s => s == "getline"
  | mark s => [")", "]", "++", "--"].contains s
  | _ => false

/-- The value of up to three digits of the base eight. -/
def octal (text : List Char) : Char × List Char :=
  let digits := (text.take 3).takeWhile (isDigitOf 8)
  (Char.ofNat (valueOf 8 digits % 256), text.drop digits.length)

/-- A text in which a backslash stands before characters with another meaning. -/
def unescape : Nat → List Char → List Char
  | 0, text => text
  | fuel + 1, text =>
    match text with
    | '\\' :: c :: rest =>
      if isDigitOf 8 c then
        let (d, rest) := octal (c :: rest)
        d :: unescape fuel rest
      else if c = 'x' && rest.head?.any (isDigitOf 16) then
        let digits := (rest.take 2).takeWhile (isDigitOf 16)
        Char.ofNat (valueOf 16 digits) :: unescape fuel (rest.drop digits.length)
      else match [('"', '"'), ('\\', '\\'), ('a', '\x07'), ('b', '\x08'), ('f', '\x0c'),
          ('n', '\n'), ('r', '\r'), ('t', '\t'), ('v', '\x0b')].lookup c with
        | some d => d :: unescape fuel rest
        | none =>
          if c = '\n' then unescape fuel rest else '\\' :: c :: unescape fuel rest
    | c :: rest => c :: unescape fuel rest
    | [] => []

/-- The text that a written text stands for. -/
def textOf (source : List Char) : String := String.ofList (unescape source.length source)

/-- What stands before the quote that ends a text, and what stands behind it. -/
def quoted : List Char → List Char → Option (List Char × List Char)
  | done, '"' :: rest => some (done.reverse, rest)
  | done, '\\' :: c :: rest => quoted (c :: '\\' :: done) rest
  | done, c :: rest => if c = '\n' then none else quoted (c :: done) rest
  | _, [] => none

/-- What stands before the slash that ends an expression, and what stands behind it.  `place` is
how far a bracket has been read: nothing outside of one, and zero right behind its beginning. -/
def slashed : Option Nat → List Char → List Char → Option (List Char × List Char)
  | none, done, '/' :: rest => some (done.reverse, rest)
  | place, done, '\\' :: '/' :: rest => slashed (place.map (· + 1)) ('/' :: done) rest
  | place, done, '\\' :: c :: rest => slashed (place.map (· + 1)) (c :: '\\' :: done) rest
  | none, done, '[' :: rest => slashed (some 0) ('[' :: done) rest
  | some 0, done, '^' :: rest => slashed (some 0) ('^' :: done) rest
  | some 0, done, c :: rest => if c = '\n' then none else slashed (some 1) (c :: done) rest
  | some _, done, ']' :: rest => slashed none (']' :: done) rest
  | place, done, c :: rest => if c = '\n' then none else slashed place (c :: done) rest
  | _, _, [] => none

/-- The line with which a text begins. -/
def lineOf (text : List Char) : String := String.ofList (text.takeWhile (· ≠ '\n'))

/-- The token with which a text begins, and what stands behind it. -/
def next (before : Token) (text : List Char) : Token × List Char :=
  match text with
  | [] => (stop, [])
  | '\n' :: rest => (newline, rest)
  | '"' :: rest =>
    match quoted [] rest with
    | some (source, rest) => (literal (textOf source), rest)
    | none => (unended "string constant" (lineOf text), [])
  | c :: rest =>
    let isDigit := c.isDigit || (c = '.' && rest.head?.any Char.isDigit)
    if isDigit then
      match readReal (if c = '0' then '0' :: '0' :: rest else text) with
      | some (x, rest) =>
        (number x (String.ofList (text.take (text.length - rest.length))), rest)
      | none => (strange c, rest)
    else if isWordChar c then
      let s := String.ofList (text.takeWhile isWordChar)
      let rest := text.dropWhile isWordChar
      if words.contains s then (word s, rest)
      else if rest.head? = some '(' then (callee s, rest)
      else (name s, rest)
    else if c = '/' && !before.isDivisible then
      match slashed none [] rest with
      | some (source, rest) => (pattern source, rest)
      | none => (unended "regular expression" (lineOf text), [])
    else match marks.find? fun m => m.toList.isPrefixOf text with
      | some m => (mark m, text.drop m.length)
      | none => (strange c, rest)

/-- What stands behind blanks, comments and ends of lines that do not count, and how many of those
there were. -/
def skipBlanks : Nat → List Char → Nat × List Char
  | 0, text => (0, text)
  | fuel + 1, text =>
    match text with
    | '#' :: rest => skipBlanks fuel (rest.dropWhile (· ≠ '\n'))
    | '\\' :: '\n' :: rest =>
      let (lines, rest) := skipBlanks fuel rest
      (lines + 1, rest)
    | c :: rest =>
      if c = ' ' || c = '\t' || c = '\r' || c = '\x0b' || c = '\x0c' then skipBlanks fuel rest
      else (0, text)
    | [] => (0, [])

end Token

/-- Where a token stands: the file of the program, if it is read from one, and the line. -/
structure Position where
  file : Option String
  line : Nat
deriving Repr, Inhabited

/-- The tokens of a text. -/
def tokensOf (file : Option String) : Nat → Nat → Token → List Char → List (Token × Position)
  | 0, line, _, _ => [(.stop, ⟨file, line⟩)]
  | fuel + 1, line, before, text =>
    let (lines, text) := Token.skipBlanks (text.length + 1) text
    let line := line + lines
    let (token, rest) := Token.next before text
    match token with
    | .stop => []
    | .newline => (token, ⟨file, line⟩) :: tokensOf file fuel (line + 1) token rest
    | token => (token, ⟨file, line⟩) :: tokensOf file fuel line token rest

/-- The tokens of a part of a program, which ends with the end of a line. -/
def tokensOfPart (file : Option String) (text : String) : List (Token × Position) :=
  let text := if text.endsWith "\n" || text.isEmpty then text else text ++ "\n"
  tokensOf file (text.length + 1) 1 .newline text.toList

end SmellRefactor.Shell.Rules
