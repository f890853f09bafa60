import SmellRefactor.Shell.Token

/-!
# Shell scripts

The commands of a script, and how they are read.  Words such as `if` and `done` have their meaning
only where a command may begin.
-/

namespace SmellRefactor.Shell

/-- Where the input or an output of a command is directed. -/
structure Redirect where
  descriptor : Nat
  /-- One of `<`, `>`, `>>`, `>|`, `<>`, `<&`, `>&`, `<<` and `<<<`. -/
  operator : String
  /-- The file or descriptor, or the document itself. -/
  target : Word
deriving Repr

/-- What a variable is set to. -/
inductive Assigned where
  | word (word : Word)
  /-- A list of values. -/
  | list (words : List Word)
deriving Repr

/-- Sets a variable. -/
structure Assignment where
  name : String
  /-- The place in a list of values. -/
  subscript : Option Word
  /-- Whether the value is added to the one that is there. -/
  extending : Bool
  value : Assigned
deriving Repr

/-- A test between double brackets. -/
inductive Condition where
  | unary (operator : String) (operand : Word)
  | binary (first : Word) (operator : String) (second : Word)
  | negated (condition : Condition)
  | both (first second : Condition)
  | either (first second : Condition)
deriving Repr, Inhabited

/-- A command. -/
inductive Command where
  | nothing
  | simple (line : Nat) (assignments : List Assignment) (words : List Word)
      (redirects : List Redirect)
  | negated (command : Command)
  | pipe (first second : Command)
  | both (first second : Command)
  | either (first second : Command)
  | sequence (first second : Command)
  /-- Runs beside what follows. -/
  | background (command : Command)
  | redirected (line : Nat) (body : Command) (redirects : List Redirect)
  | subshell (body : Command)
  | choose (condition yes no : Command)
  /-- Repeats the body while the condition succeeds, or until it does. -/
  | repeated (wanted : Bool) (condition body : Command)
  | each (line : Nat) (name : String) (words : Option (List Word)) (body : Command)
  /-- Runs the branches that match; each of them tells by what it is ended. -/
  | select (line : Nat) (subject : Word) (branches : List (List Word × Command × String))
  /-- Gives a command a name. -/
  | define (name : String) (body : Command)
  | test (line : Nat) (condition : Condition)
  /-- Succeeds if an expression is not zero. -/
  | compute (line : Nat) (expression : List Char)
  /-- Repeats the body while an expression is not zero. -/
  | counted (line : Nat) (start condition step : List Char) (body : Command)
deriving Repr, Inhabited

/-- One command after another, where the second may be missing. -/
def joined (first : Command) : Command → Command
  | .nothing => first
  | second => .sequence first second

/-- What is needed to read commands: the language, and the names that stand for other texts. -/
structure Grammar where
  dialect : Dialect
  aliases : List (String × String)

namespace Grammar

/-- The reserved word or operator with which tokens begin. -/
def mark? (g : Grammar) (tokens : Tokens) : Option String := Shell.mark? g.dialect tokens

/-- The complaint about the token with which the rest begins. -/
def unexpected (g : Grammar) (tokens : Tokens) : Except SyntaxError α :=
  Shell.unexpected g.dialect tokens

/-- The complaint about the token with which the rest begins and that should be another one. -/
def expected (g : Grammar) (text : String) (tokens : Tokens) : Except SyntaxError α :=
  Shell.expected g.dialect text tokens

/-- Takes a reserved word or operator. -/
def take (g : Grammar) (text : String) (tokens : Tokens) : Except SyntaxError Tokens :=
  Shell.take g.dialect text tokens

/-- Puts the text for which a name stands into its place.  A name that stands for a text which
begins with itself is not replaced again, and where the text ends with a blank, the word behind it
is looked at, too. -/
def expandAlias (g : Grammar) : Nat → List String → Tokens → Tokens
  | 0, _, tokens => tokens
  | fuel + 1, used, tokens =>
    match tokens with
    | (.word word, line) :: rest =>
      match word.bare? with
      | none => tokens
      | some name =>
        match g.aliases.lookup name with
        | none => tokens
        | some text =>
          if used.contains name then (.word [.text name.toList true], line) :: rest
          else
            let inner := (tokensOf g.dialect text.toList).filterMap fun entry =>
              match entry.1 with
              | .finish | .broken _ | .documents _ => none
              | token => some (token, line)
            let rest := if text.toList.getLast?.any fun c => c = ' ' || c = '\t' then
              expandAlias g fuel [] rest else rest
            expandAlias g fuel (name :: used) (inner ++ rest)
    | tokens => tokens

/-- The tokens of a command with all names replaced that stand for other texts. -/
def withAliases (g : Grammar) (tokens : Tokens) : Tokens :=
  if g.aliases.isEmpty then tokens else g.expandAlias (g.aliases.length + 1) [] tokens

end Grammar

/-- What stands before an equals sign in the pieces of an assignment to a place in a list, and what
stands behind it: the pieces of the place, whether the value is added, and the pieces of the value.
-/
def splitSubscript : Word → Option (Word × Bool × Word)
  | [] => none
  | .text content false :: pieces =>
    match content.span (· ≠ ']') with
    | (inner, ']' :: '=' :: value) =>
      some ([.text inner false], false, .text value false :: pieces)
    | (inner, ']' :: '+' :: '=' :: value) =>
      some ([.text inner false], true, .text value false :: pieces)
    | (_, ']' :: _) => none
    | _ => (splitSubscript pieces).map fun (place, rest) => (.text content false :: place, rest)
  | piece :: pieces => (splitSubscript pieces).map fun (place, rest) => (piece :: place, rest)

/-- The word without text that is empty and not quoted. -/
def withoutBlank (word : Word) : Word :=
  word.filter fun piece => match piece with
    | .text [] false => false
    | _ => true

/-- The assignment that a word is, if it is one. -/
def assignment? (dialect : Dialect) : Word → Option Assignment
  | .text content false :: pieces =>
    let name := content.takeWhile isNameChar
    let label := String.ofList name
    let set (extending : Bool) (value : List Char) : Assignment :=
      ⟨label, none, extending, .word (withoutBlank (.text value false :: pieces))⟩
    if !isName name then none
    else match dialect, content.drop name.length with
    | _, '=' :: value => some (set false value)
    | .rich, '+' :: '=' :: value => some (set true value)
    | .rich, '[' :: rest =>
      (splitSubscript (.text rest false :: pieces)).map fun (place, extending, value) =>
        ⟨label, some place, extending, .word (withoutBlank value)⟩
    | _, _ => none
  | _ => none

/-- The assignment of a list of values. -/
def elementsAssignment (target : Word) (values : List Word) : Assignment :=
  let text := target.literal.1.toList.dropLast
  let name := text.takeWhile isNameChar
  ⟨String.ofList name, none, text.length ≠ name.length, .list values⟩

/-- The operators that direct the input. -/
def inputOperators : List String := ["<", "<&", "<>"]

/-- The operators that direct an output. -/
def outputOperators : List String := [">", ">>", ">&", ">|"]

/-- Reads a redirection, which may stand for two, if there is one. -/
def readRedirect (tokens : Tokens) : Option (List Redirect × Tokens) :=
  let (number, rest) := match tokens with
    | (.descriptor n, _) :: rest => (some n, rest)
    | _ => (none, tokens)
  let errorsToo (operator : String) (word : Word) : List Redirect :=
    [⟨1, operator, word⟩, ⟨2, ">&", [.text ['1'] false]⟩]
  match rest with
  | (.operator "<<", _) :: (.document body, _) :: rest => some ([⟨number.getD 0, "<<", body⟩], rest)
  | (.operator operator, _) :: (.word word, _) :: rest =>
    if operator = "<<<" then some ([⟨number.getD 0, "<<<", word⟩], rest)
    else if inputOperators.contains operator then some ([⟨number.getD 0, operator, word⟩], rest)
    else if outputOperators.contains operator then some ([⟨number.getD 1, operator, word⟩], rest)
    else if operator = "&>" then some (errorsToo ">" word, rest)
    else if operator = "&>>" then some (errorsToo ">>" word, rest)
    else none
  | _ => none

/-- Whether tokens begin with a redirection that is not complete. -/
def isDirection : Tokens → Bool
  | (.operator operator, _) :: _ => isDirecting operator
  | (.descriptor _, _) :: _ => true
  | _ => false

/-- What stands behind the operator of a redirection. -/
def behindDirection : Tokens → Tokens
  | (.descriptor _, _) :: rest => rest.tail
  | tokens => tokens.tail

/-- Reads redirections as long as there are some. -/
def readRedirects : Nat → Tokens → List Redirect × Tokens
  | 0, tokens => ([], tokens)
  | fuel + 1, tokens =>
    match readRedirect tokens with
    | none => ([], tokens)
    | some (found, rest) =>
      let (redirects, rest) := readRedirects fuel rest
      (found ++ redirects, rest)

/-- A simple command that is being read. -/
structure Draft where
  assignments : List Assignment
  words : List Word
  redirects : List Redirect

/-- Reads the parts of a simple command. -/
def readSimple (dialect : Dialect) : Nat → Draft → Tokens → Draft × Tokens
  | 0, draft, tokens => (draft, tokens)
  | fuel + 1, draft, tokens =>
    match readRedirect tokens with
    | some (found, rest) =>
      readSimple dialect fuel { draft with redirects := draft.redirects ++ found } rest
    | none =>
      let set (a : Assignment) : Draft := { draft with assignments := draft.assignments ++ [a] }
      match tokens with
      | (.word word, _) :: rest =>
        match if draft.words.isEmpty then assignment? dialect word else none with
        | some a => readSimple dialect fuel (set a) rest
        | none =>
          readSimple dialect fuel { draft with words := draft.words ++ [word] } rest
      | (.elements target values, _) :: rest =>
        readSimple dialect fuel (set (elementsAssignment target values)) rest
      | _ => (draft, tokens)

/-- Reads words up to the end of a line or a semicolon. -/
def readWords : Tokens → List Word × Tokens
  | (.word word, _) :: rest =>
    let (words, rest) := readWords rest
    (word :: words, rest)
  | rest => ([], rest)

/-- Reads the patterns of a branch. -/
def readPatterns (g : Grammar) : Tokens → Except SyntaxError (List Word × Tokens)
  | (.word word, _) :: rest => behind word rest
  | (.operator text, line) :: rest =>
    -- In the plain language an operator counts as a pattern that matches nothing.
    if g.dialect = .plain && text ≠ "\n" then behind [.text ['\x00'] true] rest
    else g.expected (inQuotes ")") ((.operator text, line) :: rest)
  | rest => g.expected (inQuotes ")") rest
where
  /-- Reads what stands behind a pattern. -/
  behind (word : Word) : Tokens → Except SyntaxError (List Word × Tokens)
    | (.operator "|", _) :: rest => do
      let (words, rest) ← readPatterns g rest
      return (word :: words, rest)
    | (.operator ")", _) :: rest => .ok ([word], rest)
    | rest => match g.dialect, rest with
      | .plain, (.word _, line) :: _ => .error ⟨line, "word unexpected (expecting \")\")"⟩
      | _, rest => g.expected (inQuotes ")") rest

/-- The words and operators that end the commands before them. -/
def closings : List String :=
  ["then", "else", "elif", "fi", "do", "done", "esac", "\x7d", ")", ";;", ";&", ";;&"]

/-- The operators that end a branch. -/
def branchEnds : List String := [";;", ";&", ";;&"]

mutual

/-- Reads a test between double brackets: conditions joined by `||`. -/
def readCondition (g : Grammar) : Nat → Tokens → Except SyntaxError (Condition × Tokens)
  | 0, tokens => g.unexpected tokens
  | fuel + 1, tokens => do
    let (first, tokens) ← readConjunction g fuel tokens
    if g.mark? tokens = some "||" then
      let (second, tokens) ← readCondition g fuel (skipLines tokens.tail)
      return (.either first second, tokens)
    return (first, tokens)

/-- Reads conditions joined by `&&`. -/
def readConjunction (g : Grammar) : Nat → Tokens → Except SyntaxError (Condition × Tokens)
  | 0, tokens => g.unexpected tokens
  | fuel + 1, tokens => do
    let (first, tokens) ← readOneCondition g fuel tokens
    if g.mark? tokens = some "&&" then
      let (second, tokens) ← readConjunction g fuel (skipLines tokens.tail)
      return (.both first second, tokens)
    return (first, tokens)

/-- Reads a single condition. -/
def readOneCondition (g : Grammar) : Nat → Tokens → Except SyntaxError (Condition × Tokens)
  | 0, tokens => g.unexpected tokens
  | fuel + 1, tokens => do
    let tokens := skipLines tokens
    match tokens with
    | (.operator "(", _) :: rest => do
      let (condition, rest) ← readCondition g fuel rest
      return (condition, skipLines (← g.take ")" (skipLines rest)))
    | (.word first, _) :: rest =>
      if first.bare? = some "!" then
        let (condition, rest) ← readOneCondition g fuel rest
        return (.negated condition, rest)
      else match first.bare?, rest with
      | some operator, (.word operand, _) :: behind =>
        if operator.startsWith "-" && operator.length = 2 && operand.bare? ≠ some "]]" then
          return (.unary operator operand, skipLines behind)
        else binary first rest
      | _, rest => binary first rest
    | tokens => g.unexpected tokens
where
  /-- Reads what follows the first operand. -/
  binary (first : Word) (rest : Tokens) : Except SyntaxError (Condition × Tokens) :=
    match rest with
    | (.word operator, _) :: (.word second, _) :: behind =>
      match operator.bare? with
      | some "]]" => .ok (.unary "-n" first, skipLines rest)
      | some operator => .ok (.binary first operator second, skipLines behind)
      | none => g.unexpected rest
    | (.operator operator, _) :: (.word second, _) :: behind =>
      if operator = "<" || operator = ">" then
        .ok (.binary first operator second, skipLines behind)
      else .ok (.unary "-n" first, skipLines rest)
    | rest => .ok (.unary "-n" first, skipLines rest)

end

/-- The three expressions of a counting loop. -/
def splitCounting (text : List Char) : Option (List Char × List Char × List Char) :=
  let parts := text.foldr
    (fun c parts =>
      match parts with
      | part :: others => if c = ';' then [] :: part :: others else (c :: part) :: others
      | [] => [[]]) [[]]
  match parts with
  | [start, condition, step] => some (start, condition, step)
  | _ => none

mutual

/-- Reads commands up to a token that cannot begin one.  There has to be at least one, unless the
list may be empty or the script ends. -/
def readList (g : Grammar) : Nat → Bool → Tokens → Except SyntaxError (Command × Tokens)
  | 0, _, tokens => g.unexpected tokens
  | fuel + 1, mayBeEmpty, tokens => do
    let tokens := skipLines tokens
    if atFinish tokens then return (.nothing, tokens)
    if (g.mark? tokens).any closings.contains then
      if mayBeEmpty then return (.nothing, tokens) else g.unexpected tokens
    let (first, tokens) ← readAndOr g fuel tokens
    match g.mark? tokens with
    | some "&" => do
      let (rest, tokens) ← readList g fuel true tokens.tail
      return (joined (.background first) rest, tokens)
    | some ";" | some "\n" => do
      let (rest, tokens) ← readList g fuel true tokens.tail
      return (joined first rest, tokens)
    | _ => return (first, tokens)

/-- Reads commands joined by `&&` and `||`, which bind to the left. -/
def readAndOr (g : Grammar) : Nat → Tokens → Except SyntaxError (Command × Tokens)
  | 0, tokens => g.unexpected tokens
  | fuel + 1, tokens => do
    let (first, tokens) ← readPipeline g fuel tokens
    readAndOrRest g fuel first tokens

/-- Reads what is joined to a command. -/
def readAndOrRest (g : Grammar) : Nat → Command → Tokens → Except SyntaxError (Command × Tokens)
  | 0, _, tokens => g.unexpected tokens
  | fuel + 1, first, tokens =>
    match g.mark? tokens with
    | some "&&" => do
      let (second, tokens) ← readPipeline g fuel (skipLines tokens.tail)
      readAndOrRest g fuel (.both first second) tokens
    | some "||" => do
      let (second, tokens) ← readPipeline g fuel (skipLines tokens.tail)
      readAndOrRest g fuel (.either first second) tokens
    | _ => .ok (first, tokens)

/-- Reads a pipeline, possibly with a negation before it. -/
def readPipeline (g : Grammar) : Nat → Tokens → Except SyntaxError (Command × Tokens)
  | 0, tokens => g.unexpected tokens
  | fuel + 1, tokens => do
    if g.mark? tokens = some "!" then
      let (command, tokens) ← readPipes g fuel tokens.tail
      return (.negated command, tokens)
    else if g.mark? tokens = some "time" then readPipeline g fuel tokens.tail
    else readPipes g fuel tokens

/-- Reads commands joined by `|`. -/
def readPipes (g : Grammar) : Nat → Tokens → Except SyntaxError (Command × Tokens)
  | 0, tokens => g.unexpected tokens
  | fuel + 1, tokens => do
    let (first, tokens) ← readCommand g fuel tokens
    match g.mark? tokens with
    | some "|" => do
      let (second, tokens) ← readPipes g fuel (skipLines tokens.tail)
      return (.pipe first second, tokens)
    | some "|&" => do
      let line := lineOf tokens
      let (second, tokens) ← readPipes g fuel (skipLines tokens.tail)
      return (.pipe (.redirected line first [⟨2, ">&", [.text ['1'] false]⟩]) second, tokens)
    | _ => return (first, tokens)

/-- Reads one command with its redirections. -/
def readCommand (g : Grammar) : Nat → Tokens → Except SyntaxError (Command × Tokens)
  | 0, tokens => g.unexpected tokens
  | fuel + 1, tokens =>
    let tokens := g.withAliases tokens
    let line := lineOf tokens
    let compound (body : Except SyntaxError (Command × Tokens)) :
        Except SyntaxError (Command × Tokens) := do
      let (body, tokens) ← body
      let (redirects, tokens) := readRedirects fuel tokens
      return (if redirects.isEmpty then body else .redirected line body redirects, tokens)
    match g.mark? tokens with
    | some "(" => compound do
      let (body, tokens) ← readList g fuel false tokens.tail
      return (.subshell body, ← g.take ")" tokens)
    | some "\x7b" => compound do
      let (body, tokens) ← readList g fuel false tokens.tail
      return (body, ← g.take "\x7d" tokens)
    | some "if" => compound (readIf g fuel tokens.tail)
    | some "while" => compound (readLoop g fuel true tokens.tail)
    | some "until" => compound (readLoop g fuel false tokens.tail)
    | some "for" => compound (readFor g fuel tokens.tail)
    | some "case" => compound do
      match tokens.tail with
      | (.word subject, _) :: rest => do
        let rest ← g.take "in" (skipLines rest)
        let (branches, rest) ← readBranches g fuel rest
        return (.select line subject branches, rest)
      | rest => g.expected "word" rest
    | some "[[" => compound do
      let (condition, rest) ← readCondition g fuel tokens.tail
      return (.test line condition, ← g.take "]]" (skipLines rest))
    | some "function" =>
      match tokens.tail with
      | (.word word, _) :: rest => do
        let rest := match rest with
          | (.operator "(", _) :: (.operator ")", _) :: rest => rest
          | rest => rest
        let (body, rest) ← readCommand g fuel (skipLines rest)
        return (.define word.literal.1 body, rest)
      | rest => g.unexpected rest
    | some _ =>
      match readRedirect tokens with
      | some _ => readPlain line fuel tokens
      | none => g.unexpected (if isDirection tokens then tokens.tail else tokens)
    | none =>
      match tokens with
      | (.arithmetic text, _) :: rest => compound (.ok (.compute line text, rest))
      | (.word word, _) :: (.operator "(", _) :: rest =>
        if (assignment? g.dialect word).isSome then g.unexpected tokens.tail else
        match rest with
        | (.operator ")", _) :: rest =>
          match word.bare? with
          | none => .error ⟨line, "Bad function name"⟩
          | some name => do
            let (body, rest) ← readCommand g fuel (skipLines rest)
            return (.define name body, rest)
        | rest => g.expected (inQuotes ")") rest
      | tokens => readPlain line fuel tokens
where
  /-- Reads a simple command. -/
  readPlain (line fuel : Nat) (tokens : Tokens) : Except SyntaxError (Command × Tokens) :=
    match readSimple g.dialect (tokens.length + fuel) ⟨[], [], []⟩ tokens with
    | (⟨[], [], []⟩, rest) =>
      g.unexpected (if isDirection rest then behindDirection rest else rest)
    | (draft, rest) =>
      if isDirection rest then g.unexpected (behindDirection rest)
      else
        let line := if g.dialect = .plain then line else lineOfCommand g.dialect tokens
        .ok (.simple line draft.assignments draft.words draft.redirects, rest)

/-- Reads a choice behind its `if` or `elif`. -/
def readIf (g : Grammar) : Nat → Tokens → Except SyntaxError (Command × Tokens)
  | 0, tokens => g.unexpected tokens
  | fuel + 1, tokens => do
    let (condition, tokens) ← readList g fuel false tokens
    let (yes, tokens) ← readList g fuel false (← g.take "then" tokens)
    match g.mark? tokens with
    | some "elif" => do
      let (no, tokens) ← readIf g fuel tokens.tail
      return (.choose condition yes no, tokens)
    | some "else" => do
      let (no, tokens) ← readList g fuel false tokens.tail
      return (.choose condition yes no, ← g.take "fi" tokens)
    | _ => return (.choose condition yes .nothing, ← g.take "fi" tokens)

/-- Reads a loop behind its first word. -/
def readLoop (g : Grammar) : Nat → Bool → Tokens → Except SyntaxError (Command × Tokens)
  | 0, _, tokens => g.unexpected tokens
  | fuel + 1, wanted, tokens => do
    let (condition, tokens) ← readList g fuel false tokens
    let (body, tokens) ← readList g fuel false (← g.take "do" tokens)
    return (.repeated wanted condition body, ← g.take "done" tokens)

/-- Reads a loop over words, or one that counts, behind its first word. -/
def readFor (g : Grammar) : Nat → Tokens → Except SyntaxError (Command × Tokens)
  | 0, tokens => g.unexpected tokens
  | fuel + 1, tokens => do
    let line := lineOf tokens
    match tokens with
    | (.arithmetic text, _) :: rest => do
      let some (start, condition, step) := splitCounting text | g.unexpected tokens
      let rest := skipLines (if g.mark? rest = some ";" then rest.tail else rest)
      let (body, rest) ← readList g fuel false (← g.take "do" rest)
      return (.counted line start condition step body, ← g.take "done" rest)
    | tokens => do
      let name := match tokens with
        | (.word word, _) :: _ => word.bare?.filter fun name => isName name.toList
        | _ => none
      let some name := name | .error ⟨lineOf tokens, "Bad for loop variable"⟩
      let rest := skipLines tokens.tail
      let (words, rest) ←
        if g.mark? rest = some "in" then do
          let (words, rest) := readWords rest.tail
          if [some ";", some "\n"].contains (g.mark? rest) then pure (some words, rest.tail)
          else g.unexpected rest
        else pure (none, if g.mark? rest = some ";" then rest.tail else rest)
      let (body, rest) ← readList g fuel false (← g.take "do" (skipLines rest))
      return (.each line name words body, ← g.take "done" rest)

/-- Reads the branches of a selection up to its end. -/
def readBranches (g : Grammar) : Nat → Tokens →
    Except SyntaxError (List (List Word × Command × String) × Tokens)
  | 0, tokens => g.unexpected tokens
  | fuel + 1, tokens => do
    let tokens := skipLines tokens
    if g.mark? tokens = some "esac" then return ([], tokens.tail)
    let tokens := if g.mark? tokens = some "(" then tokens.tail else tokens
    let (patterns, tokens) ← readPatterns g tokens
    let (body, tokens) ← readList g fuel true tokens
    match g.mark? tokens with
    | some "esac" => return ([(patterns, body, ";;")], tokens.tail)
    | some ending =>
      if branchEnds.contains ending then
        let (branches, tokens) ← readBranches g fuel tokens.tail
        return ((patterns, body, ending) :: branches, tokens)
      else g.expected (inQuotes ";;") tokens
    | none => g.expected (inQuotes ";;") tokens

end

/-- Reads the commands of one line. -/
def readLine (g : Grammar) : Nat → Tokens → Except SyntaxError (Command × Tokens)
  | 0, tokens => g.unexpected tokens
  | fuel + 1, tokens => do
    let (first, tokens) ← readAndOr g (10 * (tokens.length + 8)) tokens
    let separator := g.mark? tokens
    let first := if separator = some "&" then .background first else first
    if separator = some ";" || separator = some "&" then
      if atFinish tokens.tail || g.mark? tokens.tail = some "\n" then return (first, tokens.tail)
      let (rest, tokens) ← readLine g fuel tokens.tail
      return (.sequence first rest, tokens)
    if atFinish tokens || separator = some "\n" then return (first, tokens)
    g.unexpected tokens

/-- Reads a whole script at once. -/
def readLines (g : Grammar) : Nat → Tokens → Except SyntaxError Command
  | 0, _ => .ok .nothing
  | fuel + 1, tokens => do
    let tokens := skipLines tokens
    if atFinish tokens then return .nothing
    let (line, rest) ← readLine g (tokens.length + 1) tokens
    return joined line (← readLines g fuel rest)

/-- The script of a text. -/
def readScript (g : Grammar) (source : List Char) : Except SyntaxError Command :=
  let tokens := tokensOf g.dialect source
  readLines g (tokens.length + 1) tokens

end SmellRefactor.Shell
