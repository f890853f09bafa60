import SmellRefactor.Shell.Machine

/-!
# Conditions

Tests of texts, numbers and files, as `test` and `[` know them.  The plain shell decides what a word
means by what stands behind it; the rich one and the program `test` go by the number of words.
-/

namespace SmellRefactor.Shell

/-- Who tests. -/
inductive Tester where
  | shell (dialect : Dialect)
  | program
deriving DecidableEq, Repr

/-- A number in a test, with blanks around it. -/
def testNumber? (text : String) : Option Int :=
  let digits := text.trimAscii.toString.toList
  let (negative, digits) := match digits with
    | '-' :: rest => (true, rest)
    | '+' :: rest => (false, rest)
    | rest => (false, rest)
  if digits.isEmpty || !digits.all Char.isDigit then none
  else
    let n : Int := Decimal.valueOf 10 digits
    some (if negative then -n else n)

/-- A number in a test that has to fit into 64 bits, unless a program tests. -/
def Tester.number (t : Tester) (text : String) : Except String Int :=
  match (testNumber? text).filter fun n =>
    t = .program || (-(Decimal.twoTo 63 : Int) ≤ n && n < Decimal.twoTo 63) with
  | some n => .ok n
  | none => .error (match t with
    | .shell .plain => "Illegal number: " ++ text
    | .shell .rich => text ++ ": integer expression expected"
    | .program => "invalid integer '" ++ text ++ "'")

/-- Whether a file may be started as a program. -/
def isStartable : FileNode → Bool
  | .directory | .program _ => true
  | .file _ mode => mode.isExecutable
  | _ => false

/-- The letters of the tests of one operand that every tester knows. -/
def commonTests : List Char := "bcdefghkLnOGprsStuwxz".toList

/-- Whether a word is an operator before one operand. -/
def Tester.isUnary (t : Tester) (word : String) : Bool :=
  match word.toList with
  | ['-', c] =>
    commonTests.contains c ||
      (match t with
        | .shell .plain => false
        | .shell .rich => ['a', 'v', 'o', 'N', 'R'].contains c
        | .program => c = 'N')
  | _ => false

/-- Whether a test of one operand succeeds. -/
def testOne (m : Machine) (operator operand : String) : Bool :=
  let found := m.standing operand
  let node := found.map Prod.snd
  match operator with
  | "-n" => !operand.isEmpty
  | "-z" => operand.isEmpty
  | "-e" | "-a" | "-r" | "-w" | "-O" | "-G" | "-N" => found.isSome
  | "-f" => node.any fun n => match n with
    | .file _ _ | .program _ => true
    | _ => false
  | "-d" => node.any FileNode.isDirectory
  | "-x" => node.any isStartable
  | "-s" => node.any fun n => match n with
    | .file content _ => !content.isEmpty
    | .directory | .program _ => true
    | _ => false
  | "-c" => node.any FileNode.isDevice
  | "-v" => (m.value? operand).isSome
  | "-g" => node.any fun n => match n with
    | .file _ mode => mode.testBit 10
    | _ => false
  | "-u" => node.any fun n => match n with
    | .file _ mode => mode.testBit 11
    | _ => false
  | "-k" => node.any fun n => match n with
    | .file _ mode => mode.testBit 9
    | _ => false
  | _ => false

/-- The operators between two operands. -/
def Tester.binaryOperators (t : Tester) : List String :=
  ["=", "!=", "-eq", "-ne", "-lt", "-le", "-gt", "-ge", "-nt", "-ot", "-ef"] ++
    match t with
    | .shell .plain => ["<", ">"]
    | .shell .rich => ["==", "<", ">"]
    | .program => ["=="]

/-- Whether a word is an operator between two operands. -/
def Tester.isBinary (t : Tester) (word : String) : Bool := t.binaryOperators.contains word

/-- A comparison of two numbers. -/
def Tester.compare (t : Tester) (first second : String) (test : Int → Int → Bool) :
    Except String Bool := do
  let a ← t.number first
  let b ← t.number second
  return test a b

/-- Whether a test of two operands succeeds. -/
def Tester.testTwo (t : Tester) (m : Machine) (first operator second : String) :
    Except String Bool :=
  match operator with
  | "=" | "==" => .ok (first == second)
  | "!=" => .ok (first != second)
  | "<" => .ok (first < second)
  | ">" => .ok (second < first)
  | "-eq" => t.compare first second fun a b => a == b
  | "-ne" => t.compare first second fun a b => a != b
  | "-lt" => t.compare first second fun a b => a < b
  | "-le" => t.compare first second fun a b => a ≤ b
  | "-gt" => t.compare first second fun a b => b < a
  | "-ge" => t.compare first second fun a b => b ≤ a
  | "-nt" => .ok ((m.standing first).isSome && (m.standing second).isNone)
  | "-ot" => .ok ((m.standing first).isNone && (m.standing second).isSome)
  | "-ef" =>
    match m.standing first, m.standing second with
    | some (a, _), some (b, _) => .ok (a == b)
    | _, _ => .ok false
  | _ => .ok false

/-! ## Words that are told by what follows them -/

/-- What a word means in a condition. -/
inductive Role where
  /-- There is no word. -/
  | absent
  | operand
  /-- An operator before one operand. -/
  | unary
  /-- An operator between two operands. -/
  | binary
  | negation
  | conjunction
  | disjunction
  | opening
  | closing
deriving DecidableEq, Repr

/-- What the first of some words means.  A word that could be an operator is an operand where too
little follows it. -/
def roleOf : List String → Role
  | [] => .absent
  | "!" :: _ => .negation
  | "-a" :: _ => .conjunction
  | "-o" :: _ => .disjunction
  | ")" :: _ => .closing
  | "(" :: rest => if rest.isEmpty then .operand else .opening
  | word :: rest =>
    let t := Tester.shell .plain
    if t.isBinary word then .binary
    else if t.isUnary word then
      match rest with
      | [] => .operand
      | [_] => .unary
      | second :: _ => if t.isBinary second then .operand else .unary
    else .operand

/-- Complains about a word. -/
def aboutWord (word text : String) : String := if word.isEmpty then text else word ++ ": " ++ text

mutual

/-- Tests joined by `-o`, which binds weaker than `-a`.  A reader of conditions is told the role in
which it takes the first word, and gives back the words from the last one that it has used. -/
def testAny (m : Machine) : Nat → Role → List String → Except String (Bool × List String)
  | 0, _, words => .ok (false, words)
  | fuel + 1, role, words => do
    let (b, words) ← testAll m fuel role words
    if roleOf words.tail = .disjunction then
      let rest := words.tail.tail
      let (c, words) ← testAny m fuel (roleOf rest) rest
      return (b || c, words)
    else return (b, words)

/-- Tests joined by `-a`. -/
def testAll (m : Machine) : Nat → Role → List String → Except String (Bool × List String)
  | 0, _, words => .ok (false, words)
  | fuel + 1, role, words => do
    let (b, words) ← testNegated m fuel role words
    if roleOf words.tail = .conjunction then
      let rest := words.tail.tail
      let (c, words) ← testAll m fuel (roleOf rest) rest
      return (b && c, words)
    else return (b, words)

/-- A test with negations before it. -/
def testNegated (m : Machine) : Nat → Role → List String → Except String (Bool × List String)
  | 0, _, words => .ok (false, words)
  | fuel + 1, role, words =>
    if role = .negation then do
      let next := roleOf words.tail
      let (b, words) ← testNegated m fuel next (if next = .absent then words else words.tail)
      return (!b, words)
    else testPrimary m fuel role words

/-- A test without operators that join tests. -/
def testPrimary (m : Machine) : Nat → Role → List String → Except String (Bool × List String)
  | 0, _, words => .ok (false, words)
  | fuel + 1, role, words =>
    match role, words with
    | .absent, words => .ok (false, words)
    | .opening, _ :: rest =>
      if roleOf rest = .closing then .ok (false, rest)
      else do
        let (b, words) ← testAny m fuel (roleOf rest) rest
        if roleOf words.tail = .closing then return (b, words.tail)
        else .error "closing paren expected"
    | .unary, operator :: operand :: rest => .ok (testOne m operator operand, operand :: rest)
    | .unary, [operator] => .error (aboutWord operator "argument expected")
    | _, first :: operator :: rest =>
      if roleOf (operator :: rest) = .binary then
        match rest with
        | [] => .error (aboutWord operator "argument expected")
        | second :: rest => do
          let b ← (Tester.shell .plain).testTwo m first operator second
          return (b, second :: rest)
      else .ok (!first.isEmpty, first :: operator :: rest)
    | _, [word] => .ok (!word.isEmpty, [word])
    | _, [] => .ok (false, [])

end

/-- Whether a condition holds that has no words before it. -/
def wholeTest (m : Machine) (role : Role) (words : List String) : Except String Bool := do
  match ← testAny m (4 * (words.length + 2)) role words with
  | (_, last :: _ :: _) => .error (aboutWord last "unexpected operator")
  | (b, _) => .ok b

/-- Whether a condition holds.  Few words are taken apart by their number. -/
def plainTest (m : Machine) : List String → Except String Bool
  | [] => .ok false
  | "!" :: rest =>
    if rest.length = 2 && (Tester.shell .plain).isBinary (rest.head?.getD "") then
      wholeTest m .operand ("!" :: rest)
    else if rest.length = 2 || rest.length = 3 then (plainTest m rest).map (!·)
    else wholeTest m .negation ("!" :: rest)
  | words =>
    let bound := words.length = 3 || words.length = 4
    if words.length = 3 && (Tester.shell .plain).isBinary (words.tail.head?.getD "") then
      wholeTest m .operand words
    else if bound && words.head? = some "(" && words.getLast? = some ")" then
      let inside := words.tail.dropLast
      wholeTest m (roleOf inside) inside
    else wholeTest m (roleOf words) words

/-! ## Words that are told by their number -/

/-- What is said about a word that should be an operator before one operand. -/
def Tester.unaryExpected (t : Tester) (word : String) : String :=
  if t = .program then "'" ++ word ++ "': unary operator expected"
  else word ++ ": unary operator expected"

/-- What is said about a word that should be an operator between two operands. -/
def Tester.binaryExpected (t : Tester) (word : String) : String :=
  if t = .program then "'" ++ word ++ "': binary operator expected"
  else word ++ ": binary operator expected"

/-- What is said where a word is missing behind the last one. -/
def Tester.missing (t : Tester) (last : String) : String :=
  if t = .program then "missing argument after '" ++ last ++ "'" else "argument expected"

/-- What is said about the first of the words that are too many. -/
def Tester.extra (t : Tester) (word : String) : String :=
  if t = .program then "extra argument '" ++ word ++ "'" else "too many arguments"

/-- Whether a word looks like an operator before one operand. -/
def isDashed (word : String) : Bool := word.length = 2 && word.startsWith "-"

/-- A test of two words. -/
def Tester.twoWords (t : Tester) (m : Machine) (first second : String) : Except String Bool :=
  if first = "!" then .ok second.isEmpty
  else if t.isUnary first then .ok (testOne m first second)
  else if isDashed first || t ≠ .program then .error (t.unaryExpected first)
  else .error (t.missing second)

mutual

/-- Tests joined by `-o`; the words behind them are given back. -/
def Tester.anyOf (t : Tester) (m : Machine) (last : String) :
    Nat → List String → Except String (Bool × List String)
  | 0, words => .ok (false, words)
  | fuel + 1, words => do
    let (b, rest) ← t.allOf m last fuel words
    match rest with
    | "-o" :: rest =>
      let (c, rest) ← t.anyOf m last fuel rest
      return (b || c, rest)
    | rest => return (b, rest)

/-- Tests joined by `-a`. -/
def Tester.allOf (t : Tester) (m : Machine) (last : String) :
    Nat → List String → Except String (Bool × List String)
  | 0, words => .ok (false, words)
  | fuel + 1, words => do
    let (b, rest) ← t.one m last fuel words
    match rest with
    | "-a" :: rest =>
      let (c, rest) ← t.allOf m last fuel rest
      return (b && c, rest)
    | rest => return (b, rest)

/-- A single test. -/
def Tester.one (t : Tester) (m : Machine) (last : String) :
    Nat → List String → Except String (Bool × List String)
  | 0, words => .ok (false, words)
  | fuel + 1, words =>
    match words with
    | [] => .error (t.missing last)
    | "!" :: rest => do
      let (b, rest) ← t.one m last fuel rest
      return (!b, rest)
    | "(" :: rest => do
      let (b, rest) ← t.anyOf m last fuel rest
      match rest with
      | ")" :: rest => return (b, rest)
      | _ => throw (if t = .program then "')' expected" else "\x60)' expected")
    | word :: rest =>
      let single : Except String (Bool × List String) :=
        if isDashed word then
          if t.isUnary word then
            match rest with
            | operand :: rest => .ok (testOne m word operand, rest)
            | [] => .error (t.missing last)
          else .error (t.unaryExpected word)
        else .ok (!word.isEmpty, rest)
      match rest with
      | operator :: second :: behind =>
        if t.isBinary operator then do return (← t.testTwo m word operator second, behind)
        else single
      | _ => single

end

/-- Whether a condition of any number of words holds. -/
def Tester.expression (t : Tester) (m : Machine) (words : List String) : Except String Bool := do
  let (b, rest) ← t.anyOf m (words.getLast?.getD "") (3 * (words.length + 2)) words
  match rest with
  | [] => return b
  | word :: _ => throw (t.extra word)

/-- Whether a condition holds, by the number of its words. -/
def Tester.counted (t : Tester) (m : Machine) (words : List String) : Except String Bool :=
  match words with
  | [] => .ok false
  | [word] => .ok !word.isEmpty
  | [first, second] => t.twoWords m first second
  | [first, second, third] => three first second third
  | [first, second, third, fourth] =>
    if first = "!" then (three second third fourth).map (!·)
    else if first = "(" && fourth = ")" then t.twoWords m second third
    else t.expression m words
  | words => t.expression m words
where
  /-- A test of three words. -/
  three (first second third : String) : Except String Bool :=
    if t.isBinary second then t.testTwo m first second third
    else if second = "-a" || second = "-o" then t.expression m [first, second, third]
    else if first = "!" then (t.twoWords m second third).map (!·)
    else if first = "(" && third = ")" then .ok !second.isEmpty
    else .error (t.binaryExpected second)

/-- Tests a condition. -/
def test (name : String) : Builtin := fun args m =>
  let verdict := match m.dialect with
    | .plain => plainTest m args
    | .rich => (Tester.shell .rich).counted m args
  match verdict with
  | .ok true => m.done 0
  | .ok false => m.done 1
  | .error text => m.fail (name ++ ": " ++ text) 2

/-- Tests a condition that ends with a bracket. -/
def bracket : Builtin := fun args m =>
  if args.getLast? = some "]" then test "[" args.dropLast m
  else m.fail (if m.dialect = .plain then "[: missing ]" else "[: missing \x60]'") 2

/-- Tests a condition as a program of its own, which is called `test`, or `[` if a bracket has to
stand at the end. -/
def testProgram (known : String) : Builtin := fun args m =>
  if known = "[" && args.getLast? ≠ some "]" then (m.complain (m.name ++ ": missing ']'\n")).done 2
  else
    match Tester.program.counted m (if known = "[" then args.dropLast else args) with
    | .ok b => m.done (if b then 0 else 1)
    | .error text => (m.complain (m.name ++ ": " ++ text ++ "\n")).done 2

end SmellRefactor.Shell
