import SmellRefactor.Shell.Word

/-!
# Tokens of shell scripts

A script is cut into tokens, each with the line on which it stands.  The last token says that the
script ends there, or that it cannot be cut further; in the second case everything before it can
still be used, because a shell runs a script line by line while it reads it.

A document inside of a script begins behind the line in which it is asked for.  While the tokens are
cut, the documents that are still to come are remembered; in the end each of them is put into the
place where it was asked for.
-/

namespace SmellRefactor.Shell

/-- A token of a script. -/
inductive Token where
  | word (word : Word)
  | operator (text : String)
  /-- A number right before a redirection. -/
  | descriptor (number : Nat)
  /-- A document that was asked for here. -/
  | document (body : Word)
  /-- The documents that begin behind a line. -/
  | documents (bodies : List Word)
  /-- The text between double parentheses. -/
  | arithmetic (text : List Char)
  /-- The beginning of an assignment, and the values between its parentheses. -/
  | elements (target : Word) (values : List Word)
  /-- The end of the script. -/
  | finish
  /-- A word that never ends, with what is said about it. -/
  | broken (complaint : String)
deriving Repr

/-- Tokens with the lines on which they stand. -/
abbrev Tokens := List (Token × Nat)

/-- What is wrong with a script, and on which line. -/
structure SyntaxError where
  line : Nat
  text : String
deriving DecidableEq, Repr

/-- The operators of a dialect, longer ones before those that begin them. -/
def operators : Dialect → List String
  | .plain =>
    [";;", "&&", "||", "<<-", "<<", ">>", "<&", ">&", "<>", ">|", ";", "&", "|", "<", ">", "(",
      ")", "\n"]
  | .rich =>
    [";;&", ";;", ";&", "&&", "||", "<<-", "<<<", "<<", ">>", "<&", ">&", "<>", ">|", "&>>", "&>",
      "|&", ";", "&", "|", "<", ">", "(", ")", "\n"]

/-- The rest of a text behind the characters with which it begins. -/
def dropStart : List Char → List Char → Option (List Char)
  | [], rest => some rest
  | _ :: _, [] => none
  | c :: start, d :: rest => if c = d then dropStart start rest else none

/-- The operator with which a text begins. -/
def readOperator (dialect : Dialect) (text : List Char) : Option (String × List Char) :=
  (operators dialect).findSome? fun operator =>
    (dropStart operator.toList text).map fun rest => (operator, rest)

/-- The words that have a meaning of their own where a command may begin. -/
def reservedWords : Dialect → List String
  | .plain =>
    ["if", "then", "else", "elif", "fi", "while", "until", "do", "done", "for", "in", "case",
      "esac", "!", "\x7b", "\x7d"]
  | .rich =>
    ["if", "then", "else", "elif", "fi", "while", "until", "do", "done", "for", "in", "case",
      "esac", "!", "\x7b", "\x7d", "function", "[[", "]]", "time"]

/-- A document that was asked for. -/
structure Request where
  /-- Whether tabs at the beginnings of lines do not count. -/
  stripped : Bool
  /-- The line that ends it. -/
  ending : List Char
  /-- Whether nothing is filled in. -/
  verbatim : Bool

namespace Request

/-- Whether a line goes on behind its end, which a backslash says. -/
def continues (r : Request) (line : List Char) : Bool :=
  !r.verbatim && (line.reverse.takeWhile (· = '\\')).length % 2 = 1

/-- The lines of the document with which a text begins, and what comes behind its last line.
`joined` tells whether the line before goes on in this one. -/
def read (r : Request) : Nat → Bool → List Char → List Char × List Char
  | 0, _, text => ([], text)
  | _, _, [] => ([], [])
  | fuel + 1, joined, text =>
    let line := text.takeWhile (· ≠ '\n')
    let rest := text.dropWhile (· ≠ '\n')
    let shown := if r.stripped then line.dropWhile (· = '\t') else line
    if shown = r.ending && !joined then ([], rest.tail)
    else
      let (others, behind) := r.read fuel (r.continues line) rest.tail
      (shown ++ (if rest.isEmpty then [] else ['\n']) ++ others, behind)

end Request

/-- The documents with which a text begins, and what comes behind them. -/
def readDocuments (dialect : Dialect) : List Request → List Char →
    Except String (List Word × List Char)
  | [], text => .ok ([], text)
  | r :: requests, text => do
    let (body, rest) := r.read (text.length + 1) false text
    let word ← if r.verbatim then pure [.text body true] else readWhole dialect .document body
    let (words, rest) ← readDocuments dialect requests rest
    return (word :: words, rest)

/-- How the cutting of a script stands. -/
structure Cut where
  line : Nat
  /-- Whether a command may begin here. -/
  atCommand : Bool
  /-- Whether a test between double brackets has begun. -/
  inTest : Bool
  /-- Whether an expression comes next. -/
  atExpression : Bool
  requests : List Request

/-- Whether a command may begin behind a word. -/
def beginsCommand (word : String) : Bool :=
  ["if", "then", "else", "elif", "while", "until", "do", "!", "\x7b", "for", "time"].contains word

/-- The name of a variable with what says that it is set, at the end of which a word stands. -/
def isSetting (word : Word) : Bool :=
  match word with
  | [.text content false] =>
    content.getLast? = some '=' && content.head?.any isNameStart &&
      (content.dropLast.dropWhile isNameChar).all fun c => c = '+'
  | _ => false

/-- Cuts a script into tokens. -/
def tokenize (dialect : Dialect) : Nat → Cut → List Char → Tokens
  | 0, cut, _ => [(.broken openQuote, cut.line)]
  | _, cut, [] =>
    [(.documents (cut.requests.map fun _ => []), cut.line), (.finish, cut.line)]
  | fuel + 1, cut, c :: rest =>
    let next := tokenize dialect fuel
    let within := { cut with atCommand := false, atExpression := false }
    if c = ' ' ∨ c = '\t' then next cut rest
    else if c = '\\' ∧ rest.head? = some '\n' then next { cut with line := cut.line + 1 } rest.tail
    else if c = '#' then next cut (rest.dropWhile (· ≠ '\n'))
    else if c = '\n' then
      match readDocuments dialect cut.requests rest with
      | .error complaint => [(.broken complaint, cut.line)]
      | .ok (bodies, behind) =>
        let passed := (rest.take (rest.length - behind.length)).count '\n'
        let fresh := { cut with line := cut.line + 1 + passed, atCommand := true, requests := [] }
        (.operator "\n", cut.line) ::
          if bodies.isEmpty then next fresh behind
          else (.documents bodies, cut.line) :: next fresh behind
    else if dialect = .rich && cut.atCommand && c = '(' && rest.head? = some '(' then
      match scanGroup [.paren, .paren] rest.tail with
      | some (inner, behind) =>
        if inner.getLast? = some ')' then
          let passed := inner.count '\n'
          (.arithmetic inner.dropLast, cut.line) ::
            next { within with line := cut.line + passed, atCommand := true } behind
        else (.operator "(", cut.line) :: next cut rest
      | none => (.operator "(", cut.line) :: next cut rest
    else
      let digits := (c :: rest).takeWhile Char.isDigit
      let behind := (c :: rest).dropWhile Char.isDigit
      let isDocument := dialect = .rich && c = '<' && rest.head? = some '('
      match if isDocument then none else readOperator dialect (c :: rest) with
      | some (operator, rest) =>
        let token := (Token.operator operator, cut.line)
        if operator = "<<" || operator = "<<-" then
          let start := rest.dropWhile fun c => c = ' ' || c = '\t'
          if start.head?.all endsWord then token :: next within rest
          else match readWord dialect start with
          | .error complaint => [token, (.broken complaint, cut.line)]
          | .ok (word, behind) =>
            let (ending, verbatim) := word.literal
            let request : Request := ⟨operator = "<<-", ending.toList, verbatim⟩
            (.operator "<<", cut.line) :: (.document [], cut.line) ::
              next { within with requests := cut.requests ++ [request] } behind
        else
          let starts := [";", "&", "&&", "||", "|", "|&", "(", ")", ";;", ";&", ";;&"]
          token :: next { within with atCommand := starts.contains operator } rest
      | none =>
        if !digits.isEmpty && (behind.head? = some '<' || behind.head? = some '>') then
          (.descriptor (Decimal.valueOf 10 digits), cut.line) :: next cut behind
        else
          let reach := if cut.atExpression then Reach.expression 0 else .word
          match readPieces dialect (rest.length + 2) reach (c :: rest) with
          | .error complaint => [(.broken complaint, cut.line + rest.count '\n')]
          | .ok (word, rest') =>
            let word := word.joined
            let passed := ((c :: rest).take (rest.length + 1 - rest'.length)).count '\n'
            let after := { within with line := cut.line + passed }
            let bare := word.bare?
            if dialect = .rich && rest'.head? = some '(' && isSetting word then
              match scanGroup [.paren] rest'.tail with
              | none => [(.broken openScript, cut.line)]
              | some (inner, behind) =>
                let values := (next { after with requests := [] } inner).filterMap
                  fun entry => match entry.1 with | .word w => some w | _ => none
                (.elements word values, cut.line) ::
                  next { after with line := after.line + inner.count '\n' } behind
            else
              let opens := dialect = .rich && cut.atCommand && bare = some "[["
              (.word word, if dialect = .plain then cut.line else after.line) ::
                next { after with
                  atCommand := bare.any beginsCommand && (cut.atCommand || bare = some "do")
                  inTest := opens || (cut.inTest && bare ≠ some "]]")
                  atExpression := cut.inTest && bare = some "=~" } rest'

/-- Puts documents into the places where they were asked for.  The result also gives the documents
for which no place has been found yet. -/
def placeDocuments : Tokens → Tokens × List Word
  | [] => ([], [])
  | (.documents bodies, _) :: rest => ((placeDocuments rest).1, bodies)
  | (.document body, line) :: rest =>
    let (tokens, bodies) := placeDocuments rest
    ((.document (bodies.getLast?.getD body), line) :: tokens, bodies.dropLast)
  | token :: rest =>
    let (tokens, bodies) := placeDocuments rest
    (token :: tokens, bodies)

/-- The tokens of a script that begins on a line. -/
def tokensFrom (dialect : Dialect) (line : Nat) (source : List Char) : Tokens :=
  (placeDocuments
    (tokenize dialect (2 * source.length + 2) ⟨line, true, false, false, []⟩ source)).1

/-- The tokens of a script. -/
def tokensOf (dialect : Dialect) (source : List Char) : Tokens := tokensFrom dialect 1 source

/-- The reserved word or operator with which tokens begin. -/
def mark? (dialect : Dialect) : Tokens → Option String
  | (.operator text, _) :: _ => some text
  | (.word word, _) :: _ =>
    match word.bare? with
    | some text => if (reservedWords dialect).contains text then some text else none
    | none => none
  | _ => none

/-- A text in quotes, as in messages. -/
def inQuotes (text : String) : String := "\"" ++ text ++ "\""

/-- Whether a text is an operator that directs an input or an output. -/
def isDirecting (operator : String) : Bool :=
  operator.any fun c => c = '<' || c = '>'

/-- What is said about a token at the wrong place. -/
def Token.complaint : Token → String
  | .operator "\n" => "newline unexpected"
  | .operator text =>
    if isDirecting text then "redirection unexpected" else inQuotes text ++ " unexpected"
  | .word w =>
    match w.bare? with
    | some text =>
      if (reservedWords .plain).contains text then inQuotes text ++ " unexpected"
      else "word unexpected"
    | none => "word unexpected"
  | .descriptor _ => "redirection unexpected"
  | .finish => "end of file unexpected"
  | .broken complaint => complaint
  | _ => "word unexpected"

/-- The text of a token, as it is shown. -/
def Token.shown : Token → String
  | .operator "\n" => "newline"
  | .operator text => text
  | .word w => w.literal.1
  | _ => "newline"

/-- The line of the first token. -/
def lineOf : Tokens → Nat
  | (_, line) :: _ => line
  | [] => 1

/-- The line that counts as the one of a simple command.  In the rich language that is the line on
which its second word ends. -/
def lineOfCommand (dialect : Dialect) (tokens : Tokens) : Nat :=
  match dialect, tokens with
  | .rich, (.word _, _) :: (.word _, line) :: _ => line
  | _, tokens => lineOf tokens

/-- Whether a script ends here. -/
def atFinish : Tokens → Bool
  | (.finish, _) :: _ | [] => true
  | _ => false

/-- Whether a line ends here. -/
def atLineEnd : Tokens → Bool
  | (.operator text, _) :: _ => text = "\n"
  | _ => false

/-- The complaint about the token with which the rest begins, with what should stand there in its
place if that is known. -/
def complainOf (dialect : Dialect) (expected : Option String) (tokens : Tokens) :
    Except SyntaxError α :=
  let token := (tokens.head?.map Prod.fst).getD .finish
  match dialect, tokens with
  | .plain, (.broken complaint, line) :: _ => .error ⟨line, complaint⟩
  | .plain, _ =>
    let line := if atLineEnd tokens then lineOf tokens + 1 else lineOf tokens
    .error ⟨line, token.complaint ++
      match expected with
      | some text => " (expecting " ++ text ++ ")"
      | none => ""⟩
  | .rich, (.broken _, line) :: _ =>
    .error ⟨line, "unexpected EOF while looking for matching \x60\"'"⟩
  | .rich, _ =>
    if atFinish tokens then .error ⟨lineOf tokens + 1, "syntax error: unexpected end of file"⟩
    else .error ⟨lineOf tokens, "syntax error near unexpected token \x60" ++ token.shown ++ "'"⟩

/-- The complaint about the token with which the rest begins. -/
def unexpected (dialect : Dialect) (tokens : Tokens) : Except SyntaxError α :=
  complainOf dialect none tokens

/-- The complaint about the token with which the rest begins and that should be another one. -/
def expected (dialect : Dialect) (text : String) (tokens : Tokens) : Except SyntaxError α :=
  complainOf dialect (some text) tokens

/-- Skips line ends. -/
def skipLines : Tokens → Tokens
  | (.operator text, line) :: rest =>
    if text = "\n" then skipLines rest else (.operator text, line) :: rest
  | rest => rest

/-- Takes a reserved word or operator. -/
def take (dialect : Dialect) (text : String) (tokens : Tokens) : Except SyntaxError Tokens :=
  if mark? dialect tokens = some text then .ok tokens.tail
  else expected dialect (inQuotes text) tokens

end SmellRefactor.Shell
