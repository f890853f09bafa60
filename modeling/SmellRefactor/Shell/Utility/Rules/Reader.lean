import SmellRefactor.Shell.Utility.Rules.Token

/-!
# Reading programs of rules

A program is read by descent, one level of operators after another.  Besides what it reads, a reader
keeps the names that hold tables, and what is allowed where it stands.
-/

namespace SmellRefactor.Shell.Rules

open Decimal

/-! ## Problems -/

/-- What is wrong with a program, where a token or a name is part of the complaint. -/
inductive ReadingProblem where
  | unexpected (token : Token)
  | missing (mark : Char) (token : Token)
  /-- A line ends too early, and the program ends within a block. -/
  | brokenOff (stop : Position)
  | extra (mark : Char) (atEnd : Bool)
  | pattern (problem : Expression.Problem) (source : String)
  | outside (word construct : String)
  | improper (word : String)
  | isTable (name : String)
  | isNoTable (name : String)
  | repeatedParameter (name : String)
  | repeatedFunction (name : String)
  | unknownFunction (name : String)
  | tooManyArguments (name : String)
  | wrongArguments (name : String)
  | noArguments (name : String)

/-- The wording of a problem with an expression. -/
def patternComplaint (problem : Expression.Problem) (source : String) : String :=
  let reason := match problem with
    | .openGroup => "missing ')'"
    | .repetition => "missing operand"
    | _ => "bad class -- [], [^] or ["
  "regular expression compile failed (" ++ reason ++ ")\n" ++ source

/-- The lines of a complaint about a problem. -/
def ReadingProblem.lines (place : Position) (problem : ReadingProblem) : List String :=
  let start := (place.file.map (· ++ ": ")).getD ""
  let line := start ++ "line " ++ toString place.line ++ ": "
  let syntaxError (token : Token) : String := line ++ "syntax error at or near " ++ token.shown
  match problem with
  | .unexpected (.unended kind source) => [line ++ "runaway " ++ kind ++ " " ++ source ++ " ..."]
  | .unexpected (.strange c) =>
    [start ++ toString place.line ++ ": unexpected character '" ++ c.toString ++ "'"]
  | .unexpected token => [syntaxError token]
  | .missing mark token => [line ++ "missing " ++ mark.toString ++ " near " ++ token.shown]
  | .brokenOff stop =>
    [syntaxError .newline,
      start ++ "line " ++ toString stop.line ++ ": missing \x7d near end of file"]
  | .extra mark atEnd =>
    (line ++ "extra '" ++ mark.toString ++ "'") :: if atEnd then [syntaxError .newline] else []
  | .pattern problem source => [line ++ patternComplaint problem source]
  | .outside word construct => [line ++ word ++ " outside " ++ construct]
  | .improper word => [line ++ "improper use of " ++ word]
  | .isTable name => [line ++ "illegal reference to array " ++ name]
  | .isNoTable name => [line ++ "illegal reference to variable " ++ name]
  | .repeatedParameter name => [line ++ name ++ " is duplicated in argument list"]
  | .repeatedFunction name => [line ++ "redefinition of " ++ name]
  | .unknownFunction name => [line ++ "function " ++ name ++ " never defined"]
  | .tooManyArguments name => [line ++ "too many arguments in call to " ++ name]
  | .wrongArguments name => [line ++ "wrong number of arguments in call to " ++ name]
  | .noArguments name => [line ++ "no arguments in call to " ++ name]

/-! ## Readers -/

/-- Where a reader stands in a program. -/
inductive Region where
  | atRim
  | inRule
  | inFunction
deriving DecidableEq, Repr

/-- The state of a reader. -/
structure Reading where
  tokens : List (Token × Position)
  /-- Where the program ends. -/
  stop : Position
  /-- The names of the functions of the program. -/
  functions : List String
  /-- The names that a function has for itself. -/
  parameters : List String
  /-- The names that have been used, and whether they hold tables. -/
  kinds : List (String × Bool)
  /-- The calls of functions, with the numbers of their arguments. -/
  calls : List (String × Nat × Position)
  region : Region
  loops : Nat
  parentheses : Nat
  braces : Nat
  /-- Whether a mark would say where something is printed to. -/
  printing : Bool

/-- A reader of a part of a program. -/
abbrev Reader (α : Type) := StateT Reading (Except (ReadingProblem × Position)) α

namespace Reader

/-- The token that comes next. -/
def peek : Reader Token := do
  return match (← get).tokens with
    | (token, _) :: _ => token
    | [] => .stop

/-- The token behind the one that comes next. -/
def peekBehind : Reader Token := do
  return match (← get).tokens with
    | _ :: (token, _) :: _ => token
    | _ => .stop

/-- Where the next token stands. -/
def position : Reader Position := do
  let s ← get
  return match s.tokens with
    | (_, place) :: _ => place
    | [] => s.stop

/-- Ends the reading with a problem. -/
def fail {α : Type} (problem : ReadingProblem) : Reader α := do throw (problem, ← position)

/-- Whether a token may be the end of a statement. -/
def isEnd : Token → Bool
  | .newline | .stop => true
  | .mark s => s == ";" || s == "\x7d"
  | _ => false

/-- Ends the reading because the next token cannot stand here. -/
def refuse {α : Type} : Reader α := do
  let s ← get
  let token ← peek
  let ended := match s.tokens.tail with
    | [] => true
    | (next, _) :: _ => match next with
      | .newline => true
      | _ => false
  match token with
  | .mark ")" =>
    if s.parentheses = 0 then fail (.extra ')' (ended && s.braces = 0))
    else fail (.unexpected token)
  | .mark "\x7d" =>
    if 0 < s.parentheses then fail (.missing ')' token)
    else if s.braces = 0 then fail (.extra '\x7d' ended)
    else fail (.unexpected token)
  | _ =>
    if isEnd token && 0 < s.parentheses then fail (.missing ')' token)
    else match token with
      | .stop => if 0 < s.braces then fail (.missing '\x7d' token) else fail (.unexpected token)
      | .newline =>
        if 0 < s.braces && s.tokens.tail.isEmpty then fail (.brokenOff s.stop)
        else fail (.unexpected token)
      | _ => fail (.unexpected token)

/-- Goes on behind the next token. -/
def advance : Reader Unit := do
  let token ← peek
  modify fun s =>
    let s := { s with tokens := s.tokens.tail }
    match token with
    | .mark "(" => { s with parentheses := s.parentheses + 1 }
    | .mark ")" => { s with parentheses := s.parentheses - 1 }
    | .mark "\x7b" => { s with braces := s.braces + 1 }
    | .mark "\x7d" => { s with braces := s.braces - 1 }
    | _ => s

/-- Whether the next token is a mark. -/
def isMark (m : String) : Reader Bool := do
  return match ← peek with
    | .mark s => s == m
    | _ => false

/-- Whether the next token is a word. -/
def isWord (w : String) : Reader Bool := do
  return match ← peek with
    | .word s => s == w
    | _ => false

/-- Goes on behind a mark, if it comes next. -/
def accept (m : String) : Reader Bool := do
  if ← isMark m then
    advance
    return true
  else return false

/-- Goes on behind a mark, which has to come next. -/
def expect (m : String) : Reader Unit := do
  if ← accept m then return () else refuse

/-- Goes on behind the ends of lines. -/
def skipLines : Reader Unit := do
  modify fun s =>
    { s with tokens := s.tokens.dropWhile fun entry => match entry.1 with
        | .newline => true
        | _ => false }

/-- Goes on behind the end of a statement.  The brace that ends a block also ends a statement. -/
def endStatement : Reader Unit := do
  match ← peek with
  | .newline | .mark ";" =>
    advance
    skipLines
  | .mark "\x7d" => if (← get).braces = 0 || 0 < (← get).parentheses then refuse
  | _ => refuse

/-- What a name stands for, which has to be a table or not to be one. -/
def resolve (name : String) (table? : Option Bool) : Reader Name := do
  let s ← get
  match table?, s.kinds.lookup name with
  | some true, some false => fail (.isNoTable name)
  | some false, some true => fail (.isTable name)
  | some table, none => modify fun s => { s with kinds := (name, table) :: s.kinds }
  | _, _ => pure ()
  return match s.parameters.idxOf? name with
    | some place => .own place
    | none => .shared name

/-- The name of a table, which comes next. -/
def tableName : Reader Name := do
  match ← peek with
  | .name s =>
    let name ← resolve s (some true)
    advance
    return name
  | _ => refuse

/-- Reads something between parentheses in which no mark says where something is printed to. -/
def enclosed {α : Type} (read : Reader α) : Reader α := do
  expect "("
  let printing := (← get).printing
  modify fun s => { s with printing := false }
  let result ← read
  modify fun s => { s with printing := printing }
  expect ")"
  return result

/-- The operator of an assignment. -/
def assignment? : Token → Option (Option Operator)
  | .mark "=" => some none
  | .mark "+=" => some (some .add)
  | .mark "-=" => some (some .subtract)
  | .mark "*=" => some (some .multiply)
  | .mark "/=" => some (some .divide)
  | .mark "%=" => some (some .remainder)
  | .mark "^=" => some (some .power)
  | _ => none

/-- The comparison that a token writes. -/
def comparison? (printing : Bool) : Token → Option Comparison
  | .mark "<" => some .less
  | .mark "<=" => some .atMost
  | .mark "==" => some .equal
  | .mark "!=" => some .different
  | .mark ">=" => some .atLeast
  | .mark ">" => if printing then none else some .greater
  | _ => none

/-- Whether a token begins something that is joined to what stands before it. -/
def beginsOperand : Token → Bool
  | .number _ _ | .literal _ | .pattern _ | .name _ | .callee _ => true
  | .word s => (Operation.table.lookup s).isSome || ["split", "sub", "gsub", "match"].contains s
  | .mark s => ["$", "!", "(", "++", "--"].contains s
  | _ => false

/-! ## Terms -/

mutual

/-- Reads a term: a choice between two values, or what its parts are. -/
def term : Nat → Reader Term
  | 0 => refuse
  | fuel + 1 => do
    let condition ← level fuel 0
    if ← accept "?" then
      let yes ← term fuel
      expect ":"
      return .choose condition yes (← term fuel)
    else return condition

/-- Reads a term of a level: alternatives, what holds together, members of tables, matches,
comparisons, and joined texts. -/
def level : Nat → Nat → Reader Term
  | 0, _ => refuse
  | fuel + 1, n => do
    if n < 5 then moreOfLevel fuel n (← level fuel (n + 1)) else
    let first ← additive fuel
    match first, assignment? (← peek) with
    | .place p, some operator =>
      advance
      return .assign p operator (← term fuel)
    | _, _ => joined fuel first

/-- Reads what stands behind an operand of a level. -/
def moreOfLevel : Nat → Nat → Term → Reader Term
  | 0, _, _ => refuse
  | fuel + 1, n, first => do
    match n, ← peek with
    | 0, .mark "||" =>
      advance
      skipLines
      moreOfLevel fuel 0 (.either first (← level fuel 1))
    | 1, .mark "&&" =>
      advance
      skipLines
      moreOfLevel fuel 1 (.both first (← level fuel 2))
    | 2, .word "in" =>
      advance
      moreOfLevel fuel 2 (.member [first] (← tableName))
    | 3, .mark "~" =>
      advance
      moreOfLevel fuel 3 (.fits false first (← level fuel 4))
    | 3, .mark "!~" =>
      advance
      moreOfLevel fuel 3 (.fits true first (← level fuel 4))
    | 4, token =>
      match comparison? (← get).printing token with
      | some comparison =>
        advance
        moreOfLevel fuel 4 (.compare comparison first (← level fuel 5))
      | none => return first
    | _, _ => return first

/-- Reads what is joined to a text. -/
def joined : Nat → Term → Reader Term
  | 0, _ => refuse
  | fuel + 1, first => do
    if beginsOperand (← peek) then joined fuel (.join first (← additive fuel)) else return first

/-- Reads a sum. -/
def additive : Nat → Reader Term
  | 0 => refuse
  | fuel + 1 => do moreOfSum fuel (← product fuel)

/-- Reads what is added to something. -/
def moreOfSum : Nat → Term → Reader Term
  | 0, _ => refuse
  | fuel + 1, first => do
    if ← accept "+" then moreOfSum fuel (.compute .add first (← product fuel))
    else if ← accept "-" then moreOfSum fuel (.compute .subtract first (← product fuel))
    else return first

/-- Reads a product. -/
def product : Nat → Reader Term
  | 0 => refuse
  | fuel + 1 => do moreOfProduct fuel (← signed fuel)

/-- Reads what something is multiplied with. -/
def moreOfProduct : Nat → Term → Reader Term
  | 0, _ => refuse
  | fuel + 1, first => do
    if ← accept "*" then moreOfProduct fuel (.compute .multiply first (← signed fuel))
    else if ← accept "/" then moreOfProduct fuel (.compute .divide first (← signed fuel))
    else if ← accept "%" then moreOfProduct fuel (.compute .remainder first (← signed fuel))
    else return first

/-- Reads a term that may have a sign. -/
def signed : Nat → Reader Term
  | 0 => refuse
  | fuel + 1 => do
    if ← accept "!" then return .deny (← signed fuel)
    else if ← accept "-" then return .negate (← signed fuel)
    else if ← accept "+" then return .toNumber (← signed fuel)
    else piped fuel (← power fuel)

/-- Reads what is taken from the output of a command. -/
def piped : Nat → Term → Reader Term
  | 0, _ => refuse
  | fuel + 1, command => do
    if !(← get).printing && (← isMark "|") then
      advance
      if ← isWord "getline" then
        advance
        piped fuel (.nextFrom command (← target? fuel))
      else refuse
    else return command

/-- Reads a power. -/
def power : Nat → Reader Term
  | 0 => refuse
  | fuel + 1 => do
    let base ← counted fuel
    if ← accept "^" then
      let exponent ← match ← peek with
        | .mark "-" | .mark "+" | .mark "!" => signed fuel
        | _ => power fuel
      return .compute .power base exponent
    else return base

/-- Reads a term behind which it may be said that it is raised or lowered. -/
def counted : Nat → Reader Term
  | 0 => refuse
  | fuel + 1 => do
    match ← primary fuel with
    | .place p =>
      if ← accept "++" then return .count p true false
      else if ← accept "--" then return .count p false false
      else return .place p
    | other => return other

/-- Reads what stands in front of a place that is raised or lowered. -/
def countedFirst : Nat → Bool → Reader Term
  | 0, _ => refuse
  | fuel + 1, up => do
    match ← primary fuel with
    | .place p => return .count p up true
    | _ => refuse

/-- Reads the terms of a list up to a mark, which does not belong to it. -/
def terms : Nat → String → Reader (List Term)
  | 0, _ => refuse
  | fuel + 1, stop => do
    let first ← term fuel
    if ← accept "," then
      skipLines
      return first :: (← terms fuel stop)
    else if stop.isEmpty || (← isMark stop) then return [first]
    else refuse

/-- Reads the target of a record, if there is one. -/
def target? : Nat → Reader (Option Place)
  | 0 => refuse
  | fuel + 1 => do
    match ← peek with
    | .name _ | .mark "$" =>
      match ← primary fuel with
      | .place p => return some p
      | _ => refuse
    | _ => return none

/-- Reads the arguments of a function. -/
def arguments : Nat → Reader (List Term)
  | 0 => refuse
  | fuel + 1 => enclosed do
    skipLines
    if ← isMark ")" then return [] else terms fuel ")"

/-- Reads a function that every program has, behind its name. -/
def operation : Nat → String → Reader Term
  | 0, _ => refuse
  | fuel + 1, name => do
    match name with
    | "split" => enclosed do
      let text ← term fuel
      expect ","
      skipLines
      let table ← tableName
      if ← accept "," then return .divide text table (some (← term fuel))
      else return .divide text table none
    | "match" => enclosed do
      let text ← term fuel
      expect ","
      skipLines
      return .find text (← term fuel)
    | "sub" | "gsub" => enclosed do
      let pattern ← term fuel
      expect ","
      skipLines
      let text ← term fuel
      if ← accept "," then
        skipLines
        match ← target? fuel with
        | some p => return .replace (name == "gsub") pattern text (some p)
        | none => refuse
      else return .replace (name == "gsub") pattern text none
    | name =>
      match Operation.table.lookup name with
      | none => refuse
      | some (operation, least, most) =>
        if operation = .length && !(← isMark "(") then return .apply .length []
        else
          let args ← arguments fuel
          if args.length < least || most < args.length then
            if operation = .length then fail (.unexpected (.mark ","))
            else fail (.wrongArguments name)
          return .apply operation args

/-- Reads a term that no operator is part of. -/
def primary : Nat → Reader Term
  | 0 => refuse
  | fuel + 1 => do
    match ← peek with
    | .number x _ =>
      advance
      return .number x
    | .literal s =>
      advance
      return .text s
    | .pattern source =>
      match Expression.ofString .ofRules source with
      | .ok e =>
        advance
        return .pattern e
      | .error problem => fail (.pattern problem (String.ofList source))
    | .mark "$" =>
      advance
      match ← peek with
      | .mark "++" =>
        advance
        return .place (.field (← countedFirst fuel true))
      | .mark "--" =>
        advance
        return .place (.field (← countedFirst fuel false))
      | .mark "-" =>
        advance
        return .place (.field (.negate (← primary fuel)))
      | _ => return .place (.field (← primary fuel))
    | .mark "++" =>
      advance
      countedFirst fuel true
    | .mark "--" =>
      advance
      countedFirst fuel false
    | .mark "(" =>
      let items ← enclosed (terms fuel ")")
      match items with
      | [.place (.field n)] => return .place (.field n)
      | [t] => return .grouped t
      | items =>
        if ← isWord "in" then
          advance
          return .member items (← tableName)
        else refuse
    | .name s =>
      if (← get).functions.contains s && !(← get).parameters.contains s then
        advance
        call fuel s
      else variableNamed fuel s
    | .callee s =>
      if (← get).parameters.contains s || ((← get).kinds.lookup s).isSome then variableNamed fuel s
      else
        advance
        call fuel s
    | .word "getline" =>
      advance
      let target ← target? fuel
      if ← accept "<" then return .nextOf (← counted fuel) target
      else return .next target
    | .word s =>
      if (Operation.table.lookup s).isSome || ["split", "sub", "gsub", "match"].contains s then
        advance
        operation fuel s
      else refuse
    | _ => refuse

/-- Reads a variable or an element of a table. -/
def variableNamed : Nat → String → Reader Term
  | 0, _ => refuse
  | fuel + 1, s => do
    match ← peekBehind with
    | .mark "[" =>
      let name ← resolve s (some true)
      advance
      advance
      let keys ← terms fuel "]"
      expect "]"
      return .place (.element name keys)
    | .mark "," | .mark ")" =>
      -- What is an argument may still turn out to be a table.
      let name ← resolve s none
      advance
      return .place (.named name)
    | _ =>
      let name ← resolve s (some false)
      advance
      return .place (.named name)

/-- Reads the arguments of a function of the program. -/
def call : Nat → String → Reader Term
  | 0, _ => refuse
  | fuel + 1, name => do
    let place ← position
    let args ← arguments fuel
    modify fun s => { s with calls := (name, args.length, place) :: s.calls }
    return .call name args

end

/-! ## Statements -/

/-- Reads the items of a statement that prints.  A list between parentheses may be all of it. -/
def items (fuel : Nat) : Reader (List Term) := do
  let listed : Reader (List Term) := do
    let items ← arguments fuel
    match ← peek with
    | .mark ">" | .mark ">>" | .mark "|" => return items
    | token => if isEnd token then return items else refuse
  if isEnd (← peek) then return []
  else match ← peek with
    | .mark ">" | .mark ">>" | .mark "|" => return []
    | .mark "(" =>
      let s ← get
      match listed.run s with
      | .ok (items, s) =>
        set s
        return items
      | .error _ =>
        let items ← terms fuel ""
        return items
    | _ => terms fuel ""

/-- Reads a statement that prints, behind its name. -/
def printed (fuel : Nat) (name : String) : Reader Statement := do
  modify fun s => { s with printing := true }
  let items ← items fuel
  if name = "printf" && items.isEmpty then fail (.noArguments name)
  let sink? : Option Sink := match ← peek with
    | .mark ">" => some .replacing
    | .mark ">>" => some .behind
    | .mark "|" => some .command
    | _ => none
  modify fun s => { s with printing := false }
  let target ← match sink? with
    | some sink => do
      advance
      pure (some (sink, ← term fuel))
    | none => pure none
  endStatement
  return if name = "printf" then .printLaidOut items target else .print items target

/-- Reads a condition between parentheses. -/
def condition (fuel : Nat) : Reader Term := do
  let t ← enclosed (term fuel)
  return t

/-- Reads a term, unless the end of a statement comes next. -/
def term? (fuel : Nat) : Reader (Option Term) := do
  if isEnd (← peek) then return none else return some (← term fuel)

/-- Reads something within a loop. -/
def looping {α : Type} (read : Reader α) : Reader α := do
  modify fun s => { s with loops := s.loops + 1 }
  let result ← read
  modify fun s => { s with loops := s.loops - 1 }
  return result

/-- Whether what is between the parentheses of a loop goes through the keys of a table. -/
def isEach : Reader Bool := do
  return match (← get).tokens.map Prod.fst with
    | .mark "(" :: .name _ :: .word "in" :: .name _ :: .mark ")" :: _ => true
    | _ => false

mutual

/-- Reads a statement. -/
def statement : Nat → Reader Statement
  | 0 => refuse
  | fuel + 1 => do
    match ← peek with
    | .mark "\x7b" => block fuel
    | .mark ";" | .newline =>
      endStatement
      return .nothing
    | .mark "\x7d" =>
      endStatement
      return .nothing
    | .word w =>
      match w with
      | "if" =>
        advance
        let condition ← condition fuel
        skipLines
        let yes ← statement fuel
        if ← isWord "else" then
          advance
          skipLines
          return .branch condition yes (← statement fuel)
        else return .branch condition yes .nothing
      | "while" =>
        advance
        let condition ← condition fuel
        if ← accept ";" then
          skipLines
          return .loop true (some condition) .nothing .nothing
        skipLines
        let body ← looping (statement fuel)
        return .loop true (some condition) .nothing body
      | "do" =>
        advance
        skipLines
        let body ← looping (statement fuel)
        if ← isWord "while" then
          advance
          let condition ← condition fuel
          endStatement
          return .loop false (some condition) .nothing body
        else refuse
      | "for" =>
        advance
        forLoop fuel
      | "break" | "continue" =>
        if (← get).loops = 0 then fail (.outside (w ++ " statement") "of loop")
        advance
        endStatement
        return if w = "break" then .leave else .again
      | "next" | "nextfile" =>
        if (← get).region ≠ .inRule then fail (.improper w)
        advance
        endStatement
        return if w = "next" then .nextRecord else .nextFile
      | "exit" =>
        advance
        let status ← term? fuel
        endStatement
        return .quit status
      | "return" =>
        if (← get).region ≠ .inFunction then fail (.outside "return" "function body")
        advance
        let value ← term? fuel
        endStatement
        return .give value
      | "delete" =>
        advance
        let table ← tableName
        let keys ← if ← accept "[" then do
            let keys ← terms fuel "]"
            expect "]"
            pure (some keys)
          else pure none
        endStatement
        return .erase table keys
      | "print" | "printf" =>
        advance
        printed fuel w
      | _ => termStatement fuel
    | _ => termStatement fuel

/-- Reads a term as a statement. -/
def termStatement : Nat → Reader Statement
  | 0 => refuse
  | fuel + 1 => do
    let t ← term fuel
    endStatement
    return .term t

/-- Reads a loop behind its name. -/
def forLoop : Nat → Reader Statement
  | 0 => refuse
  | fuel + 1 => do
    if ← isEach then
      expect "("
      let name ← match ← peek with
        | .name s => resolve s (some false)
        | _ => refuse
      advance
      advance
      let table ← tableName
      expect ")"
      skipLines
      return .each name table (← looping (statement fuel))
    else
      expect "("
      let start ← term? fuel
      expect ";"
      skipLines
      let condition ← term? fuel
      expect ";"
      skipLines
      let step ← if ← isMark ")" then pure none else do pure (some (← term fuel))
      expect ")"
      if ← accept ";" then
        skipLines
        return around start condition step .nothing
      skipLines
      return around start condition step (← looping (statement fuel))
where
  /-- A loop with what is done before it. -/
  around (start condition step : Option Term) (body : Statement) : Statement :=
    let asStatement (t : Option Term) : Statement := (t.map Statement.term).getD .nothing
    .block [asStatement start, .loop true condition (asStatement step) body]

/-- Reads statements between braces. -/
def block : Nat → Reader Statement
  | 0 => refuse
  | fuel + 1 => do
    expect "\x7b"
    skipLines
    let body ← statements fuel
    expect "\x7d"
    if 0 < (← get).braces then skipLines
    return .block body

/-- Reads statements up to a closing brace. -/
def statements : Nat → Reader (List Statement)
  | 0 => refuse
  | fuel + 1 => do
    if ← isMark "\x7d" then return []
    else
      let first ← statement fuel
      return first :: (← statements fuel)

end

/-! ## Rules -/

/-- Goes on behind what may stand behind a block. -/
def endBlock : Reader Unit := do
  let _ ← accept ";"
  skipLines

/-- Reads the block of a rule, or nothing, where the record is printed. -/
def ruleBody (fuel : Nat) : Reader Statement := do
  if ← isMark "\x7b" then
    let body ← block fuel
    endBlock
    return body
  else
    endStatement
    return .print [] none

/-- Reads a block in a region. -/
def blockIn (fuel : Nat) (region : Region) : Reader Statement := do
  modify fun s => { s with region := region }
  if ← isMark "\x7b" then
    let body ← block fuel
    endBlock
    modify fun s => { s with region := .atRim }
    return body
  else refuse

/-- Reads the parameters of a function behind the parenthesis. -/
def parameters : Nat → List String → Reader (List String)
  | 0, _ => refuse
  | fuel + 1, before => do
    match ← peek with
    | .mark ")" =>
      advance
      return before.reverse
    | .name s =>
      if before.contains s then fail (.repeatedParameter s)
      advance
      if ← accept "," then
        skipLines
        parameters fuel (s :: before)
      else
        expect ")"
        return (s :: before).reverse
    | _ => refuse

/-- Reads a function behind the word that begins it. -/
def function (fuel : Nat) (known : List String) : Reader Function := do
  match ← peek with
  | .name s | .callee s =>
    if known.contains s then fail (.repeatedFunction s)
    advance
    expect "("
    let own ← parameters fuel []
    skipLines
    let kinds := (← get).kinds
    modify fun s =>
      { s with parameters := own, kinds := kinds.filter fun kind => !own.contains kind.1 }
    let body ← blockIn fuel .inFunction
    modify fun s =>
      { s with
        parameters := []
        kinds := (s.kinds.filter fun kind => !own.contains kind.1) ++
          kinds.filter fun kind => own.contains kind.1 }
    return ⟨s, own.length, body⟩
  | _ => refuse

/-- Reads rules and functions up to the end. -/
def program (depth : Nat) : Nat → Program → Reader Program
  | 0, _ => refuse
  | fuel + 1, done => do
    let withRule (guard : Guard) (body : Statement) : Program :=
      { done with rules := done.rules ++ [⟨guard, body⟩] }
    match ← peek with
    | .stop => return done
    | .word "BEGIN" =>
      advance
      program depth fuel (withRule .first (← blockIn depth .atRim))
    | .word "END" =>
      advance
      program depth fuel (withRule .last (← blockIn depth .atRim))
    | .word "function" =>
      advance
      let f ← function depth (done.functions.map Function.name)
      program depth fuel { done with functions := done.functions ++ [f] }
    | .mark "\x7b" =>
      program depth fuel (withRule .always (← blockIn depth .inRule))
    | _ =>
      modify fun s => { s with region := .inRule }
      let start ← term depth
      let guard ← if ← accept "," then do
          skipLines
          pure (Guard.range start (← term depth))
        else pure (Guard.condition start)
      let body ← ruleBody depth
      modify fun s => { s with region := .atRim }
      program depth fuel (withRule guard body)

/-- Reads a whole program, in which all functions that are called have to be there. -/
def wholeProgram (depth fuel : Nat) : Reader Program := do
  skipLines
  let p ← program depth fuel ⟨[], []⟩
  for (name, count, place) in (← get).calls.reverse do
    match p.functions.find? fun f => f.name = name with
    | none => fail (.unknownFunction name)
    | some f => if f.parameters < count then throw (.tooManyArguments name, place)
  return p

end Reader

/-- The names of the functions that are defined somewhere in a program. -/
def functionNames : List (Token × Position) → List String
  | (.word "function", _) :: (.name s, _) :: rest
  | (.word "function", _) :: (.callee s, _) :: rest => s :: functionNames rest
  | _ :: rest => functionNames rest
  | [] => []

/-- The program of some parts, each with the file that it is read from, if there is one. -/
def readProgram (parts : List (Option String × String)) :
    Except (ReadingProblem × Position) Program :=
  let tokens := parts.flatMap fun part => tokensOfPart part.1 part.2
  let last : Position := match parts.getLast? with
    | some (file, text) =>
      ⟨file, (text.toList.count '\n') + (if text.endsWith "\n" || text.isEmpty then 1 else 2)⟩
    | none => ⟨none, 1⟩
  let start : Reading :=
    { tokens := tokens, stop := last, functions := functionNames tokens, parameters := []
      kinds := [], calls := [], region := .atRim, loops := 0, parentheses := 0, braces := 0
      printing := false }
  ((Reader.wholeProgram (24 * (tokens.length + 4)) (tokens.length + 1)).run start).map Prod.fst

end SmellRefactor.Shell.Rules
