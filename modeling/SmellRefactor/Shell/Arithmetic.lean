import SmellRefactor.Decimal.Numeral
import SmellRefactor.Shell.Token

/-!
# Arithmetic in shell scripts

Expressions over whole numbers of 64 bits with the operators of the shell, from assignments down to
the unary operators.  Truth is one and falsehood is zero.  An expression is read as a whole before
anything is computed, and what it sets is collected, the latest settings first.
-/

namespace SmellRefactor.Shell.Arithmetic

/-- An expression. -/
inductive Term where
  | number (n : Int)
  | value (name : String) (index : Option Term)
  | unary (operator : Char) (operand : Term)
  | binary (operator : String) (first second : Term)
  | both (first second : Term)
  | either (first second : Term)
  | choose (condition yes no : Term)
  /-- Sets a variable; the operator is applied to its old value before. -/
  | assign (name : String) (index : Option Term) (operator : Option String) (value : Term)
  /-- Adds a number to a variable, and gives its value before or behind that. -/
  | step (name : String) (index : Option Term) (amount : Int) (before : Bool)
  /-- Computes one after the other, and gives the second. -/
  | comma (first second : Term)
deriving Repr, Inhabited

/-- The operators between two operands, weaker binding ones first; within a level longer ones stand
before those that begin them. -/
def levels : List (List String) :=
  [["||"], ["&&"], ["|"], ["^"], ["&"], ["==", "!="], ["<=", ">=", "<", ">"], ["<<", ">>"],
    ["+", "-"], ["*", "/", "%"]]

/-- The number that is left of a number in 64 bits. -/
def wrapped (n : Int) : Int := (Int64.ofInt n).toInt

/-- The number for a truth value. -/
def truth (b : Bool) : Int := if b then 1 else 0

/-- Applies an operator on the bits of two numbers. -/
def onBits (f : UInt64 → UInt64 → UInt64) (a b : Int) : Int :=
  (f (UInt64.ofInt a) (UInt64.ofInt b)).toInt64.toInt

/-- Applies an operator; `none` for a division by zero. -/
def apply (operator : String) (a b : Int) : Option Int :=
  match operator with
  | "|" => some (onBits (· ||| ·) a b)
  | "^" => some (onBits (· ^^^ ·) a b)
  | "&" => some (onBits (· &&& ·) a b)
  | "==" => some (truth (a = b))
  | "!=" => some (truth (a ≠ b))
  | "<=" => some (truth (a ≤ b))
  | ">=" => some (truth (b ≤ a))
  | "<" => some (truth (a < b))
  | ">" => some (truth (b < a))
  | "<<" => some (onBits (· <<< ·) a b)
  | ">>" => some ((Int64.ofInt a >>> Int64.ofInt b).toInt)
  | "+" => some (wrapped (a + b))
  | "-" => some (wrapped (a - b))
  | "*" => some (wrapped (a * b))
  | "/" => if b = 0 then none else some (wrapped (a.tdiv b))
  | "%" => if b = 0 then none else some (a.tmod b)
  | "**" => if b < 0 then none else some (wrapped (Int.pow a b.toNat))
  | _ => none

/-- Skips blanks. -/
def skipBlanks (text : List Char) : List Char :=
  text.dropWhile fun c => c = ' ' ∨ c = '\t' ∨ c = '\n'

/-- The operator of a level with which a text begins.  A single `|` or `&` is not taken out of a
double one, nor `<` out of `<<`, nor an operator out of one that sets a variable. -/
def operatorAt (level : List String) (text : List Char) : Option (String × List Char) :=
  level.findSome? fun operator =>
    (dropStart operator.toList text).bind fun rest =>
      let doubled := operator.length = 1 && rest.head? = operator.toList.head? &&
        "|&<>".contains operator.front
      let setting := rest.head? = some '=' &&
        ["|", "^", "&", "<<", ">>", "+", "-", "*", "/", "%"].contains operator
      if doubled || setting then none else some (operator, rest)

/-- The largest number of 64 bits. -/
def greatest : Nat := Decimal.twoTo 63 - 1

/-- The value of digits in a base; numbers that are too large count as the largest one. -/
def clamped (base : Nat) (digits : List Char) : Int := min (Decimal.valueOf base digits) greatest

/-- The value of the digits with which a text begins: base sixteen behind `0x`, base eight behind
`0`, and base ten otherwise. -/
def readNumber (text : List Char) : Int × List Char :=
  let ten : Int × List Char :=
    (clamped 10 (text.takeWhile Char.isDigit), text.dropWhile Char.isDigit)
  match text with
  | '0' :: x :: rest =>
    let isHex := Decimal.isDigitOf 16
    if (x = 'x' || x = 'X') && rest.head?.any isHex then
      (clamped 16 (rest.takeWhile isHex), rest.dropWhile isHex)
    else
      let isOctal := Decimal.isDigitOf 8
      (clamped 8 ((x :: rest).takeWhile isOctal), (x :: rest).dropWhile isOctal)
  | _ => ten

/-- The number that a text begins with behind blanks and a sign, and what comes behind it. -/
def signedNumber (text : String) : Int × List Char :=
  match text.toList.dropWhile fun c => c = ' ' || ('\t' ≤ c && c ≤ '\r') with
  | '-' :: rest => ((-(readNumber rest).1), (readNumber rest).2)
  | '+' :: rest => readNumber rest
  | rest => readNumber rest

/-- The number that a text stands for; an empty text stands for zero. -/
def numberOf (text : String) : Int := (signedNumber text).1

/-- Whether a text stands for a number. -/
def isNumber (text : String) : Bool :=
  let trimmed := text.trimAscii.toString.toList
  let digits := match trimmed with
    | '-' :: rest | '+' :: rest | rest => rest
  trimmed.isEmpty || (digits.head?.any Char.isDigit && (readNumber digits).2.isEmpty)

/-- The operators that change a variable, with the operators that they apply before. -/
def assignmentOperators : List (String × String) :=
  [("<<=", "<<"), (">>=", ">>"), ("+=", "+"), ("-=", "-"), ("*=", "*"), ("/=", "/"), ("%=", "%"),
    ("&=", "&"), ("|=", "|"), ("^=", "^")]

/-- The operator of an assignment with which a text begins.  A plain assignment has no operator. -/
def assignmentAt (text : List Char) : Option (Option String × List Char) :=
  match assignmentOperators.findSome? fun entry =>
    (dropStart entry.1.toList text).map fun rest => (some entry.2, rest) with
  | some found => some found
  | none =>
    match text with
    | '=' :: '=' :: _ => none
    | '=' :: rest => some (none, rest)
    | _ => none

/-- Why an expression cannot be read: what was expected, and the rest of its text. -/
structure Problem where
  what : String
  rest : List Char

/-- What reading gives: a term and what comes behind it. -/
abbrev Read := Except Problem (Term × List Char)

/-- A number in the base that a text names, as in `16#ff`. -/
def readBased (text : List Char) : Option (Int × List Char) :=
  let digits := text.takeWhile Char.isDigit
  match text.dropWhile Char.isDigit with
  | '#' :: rest =>
    let base := Decimal.valueOf 10 digits
    let isOne := Decimal.isDigitOf base
    if 2 ≤ base && base ≤ 36 && rest.head?.any isOne then
      some (clamped base (rest.takeWhile isOne), rest.dropWhile isOne)
    else none
  | _ => none

mutual

/-- Reads an operand: a number, a variable, a group or a unary operator before an operand. -/
def readOperand (dialect : Dialect) : Nat → List Char → Read
  | 0, text => .error ⟨"expecting primary", text⟩
  | fuel + 1, text => do
    let unary (operator : Char) (rest : List Char) : Read := do
      let (operand, rest) ← readOperand dialect fuel rest
      return (.unary operator operand, rest)
    match skipBlanks text with
    | '(' :: rest =>
      let (term, rest) ← readList dialect fuel rest
      match skipBlanks rest with
      | ')' :: rest => return (term, rest)
      | rest => throw ⟨"expecting ')'", rest⟩
    | '-' :: '-' :: rest =>
      if dialect = .rich && (skipBlanks rest).head?.any isNameStart then
        stepped fuel (-1) (skipBlanks rest)
      else unary '-' ('-' :: rest)
    | '+' :: '+' :: rest =>
      if dialect = .rich && (skipBlanks rest).head?.any isNameStart then
        stepped fuel 1 (skipBlanks rest)
      else unary '+' ('+' :: rest)
    | '-' :: rest => unary '-' rest
    | '+' :: rest => unary '+' rest
    | '!' :: rest => unary '!' rest
    | '~' :: rest => unary '~' rest
    | c :: rest =>
      if c.isDigit then
        match if dialect = .rich then readBased (c :: rest) else none with
        | some (n, rest) => return (.number n, rest)
        | none =>
          let (n, behind) := readNumber (c :: rest)
          if dialect = .rich && behind.head?.any Char.isDigit then
            throw ⟨"value too great for base", c :: rest⟩
          return (.number n, behind)
      else if isNameStart c then
        let (name, index, rest) ← readPlace fuel (c :: rest)
        match dialect, rest with
        | .rich, '+' :: '+' :: rest => return (.step name index 1 true, rest)
        | .rich, '-' :: '-' :: rest => return (.step name index (-1) true, rest)
        | _, rest =>
          match assignmentAt (skipBlanks rest) with
          | some (operator, rest) =>
            let (value, rest) ← readChoice dialect fuel rest
            return (.assign name index operator value, rest)
          | none => return (.value name index, rest)
      else throw ⟨"expecting primary", c :: rest⟩
    | [] => throw ⟨"expecting primary", text⟩
where
  /-- Reads a variable behind an operator that changes it by an amount. -/
  stepped (fuel : Nat) (amount : Int) (text : List Char) : Read := do
    let (name, index, rest) ← readPlace fuel text
    return (.step name index amount false, rest)
  /-- Reads a variable with its place in a list of values. -/
  readPlace (fuel : Nat) (text : List Char) :
      Except Problem (String × Option Term × List Char) := do
    let name := String.ofList (text.takeWhile isNameChar)
    match dialect, text.dropWhile isNameChar with
    | .rich, '[' :: rest =>
      let (index, rest) ← readList dialect fuel rest
      match skipBlanks rest with
      | ']' :: rest => return (name, some index, rest)
      | rest => throw ⟨"expecting ']'", rest⟩
    | _, rest => return (name, none, rest)

/-- Reads powers, which bind to the right. -/
def readPower (dialect : Dialect) : Nat → List Char → Read
  | 0, text => .error ⟨"expecting primary", text⟩
  | fuel + 1, text => do
    let (first, rest) ← readOperand dialect fuel text
    match dialect, skipBlanks rest with
    | .rich, '*' :: '*' :: rest =>
      let (second, rest) ← readPower dialect fuel rest
      return (.binary "**" first second, rest)
    | _, _ => return (first, rest)

/-- Reads operands joined by the operators of the levels. -/
def readOperation (dialect : Dialect) : Nat → List (List String) → List Char → Read
  | 0, _, text => .error ⟨"expecting primary", text⟩
  | fuel + 1, [], text => readPower dialect fuel text
  | fuel + 1, level :: tighter, text => do
    let (first, rest) ← readOperation dialect fuel tighter text
    continued dialect fuel level tighter first rest

/-- Reads what the operators of a level join to a term. -/
def continued (dialect : Dialect) :
    Nat → List String → List (List String) → Term → List Char → Read
  | 0, _, _, first, text => .ok (first, text)
  | fuel + 1, level, tighter, first, text => do
    match operatorAt level (skipBlanks text) with
    | none => return (first, text)
    | some (operator, rest) =>
      let (second, rest) ← readOperation dialect fuel tighter rest
      let term := match operator with
        | "||" => .either first second
        | "&&" => .both first second
        | operator => .binary operator first second
      continued dialect fuel level tighter term rest

/-- Reads a choice, or operands and operators. -/
def readChoice (dialect : Dialect) : Nat → List Char → Read
  | 0, text => .error ⟨"expecting primary", text⟩
  | fuel + 1, text => do
    let (condition, rest) ← readOperation dialect fuel levels text
    match skipBlanks rest with
    | '?' :: rest =>
      let (yes, rest) ← readChoice dialect fuel rest
      match skipBlanks rest with
      | ':' :: rest =>
        let (no, rest) ← readChoice dialect fuel rest
        return (.choose condition yes no, rest)
      | rest => throw ⟨"expecting ':'", rest⟩
    | _ => return (condition, rest)

/-- Reads expressions with commas between them. -/
def readList (dialect : Dialect) : Nat → List Char → Read
  | 0, text => .error ⟨"expecting primary", text⟩
  | fuel + 1, text => do
    let (first, rest) ← readChoice dialect fuel text
    match dialect, skipBlanks rest with
    | .rich, ',' :: rest =>
      let (second, rest) ← readList dialect fuel rest
      return (.comma first second, rest)
    | _, _ => return (first, rest)

end

/-- What an expression sets: the variable, its place in a list of values, and the number. -/
abbrev Setting := String × Option Int × Int

/-- A step in the computation of an expression. -/
abbrev Computation := StateT (List Setting) (Except String)

/-- How the computation of an expression sees the shell. -/
structure View where
  dialect : Dialect
  /-- The text of a variable, or of a place in a list of values. -/
  text : String → Option Int → String
  /-- The expression, for complaints. -/
  whole : String

namespace View

/-- A complaint about an expression. -/
def complaint (v : View) (p : Problem) : String :=
  match v.dialect with
  | .plain => "arithmetic expression: " ++ p.what ++ ": \"" ++ v.whole ++ "\""
  | .rich =>
    let shown := v.whole.trimAsciiStart.toString
    let rest := String.ofList (skipBlanks p.rest)
    let cause :=
      if p.what = "value too great for base" || p.what = "division by 0" then p.what
      else if p.what = "expecting EOF" then "syntax error in expression"
      else if p.what = "expecting ')'" then "missing \x60)'"
      else "syntax error: operand expected"
    let near := if rest.isEmpty then (shown.toList.reverse.dropWhile fun c => c = ' ').head?.toList
      else rest.toList
    shown ++ ": " ++ cause ++ " (error token is \"" ++ String.ofList near ++ "\")"

/-- Reads an expression to its end. -/
def read (v : View) (text : List Char) : Except String Term :=
  if (skipBlanks text).isEmpty then
    if v.dialect = .plain then .error (v.complaint ⟨"expecting primary", []⟩) else .ok (.number 0)
  else match readList v.dialect (40 * (text.length + 2)) text with
  | .error p => .error (v.complaint p)
  | .ok (term, rest) =>
    if (skipBlanks rest).isEmpty then .ok term
    else .error (v.complaint ⟨"expecting EOF", skipBlanks rest⟩)

mutual

/-- The number of a variable.  In the rich language it may hold an expression. -/
def held (v : View) : Nat → String → Option Int → Computation Int
  | 0, name, _ => throw (name ++ ": expression recursion level exceeded")
  | fuel + 1, name, index => do
    let found := (← get).find? fun s => s.1 == name && (s.2.1 == index)
    match found with
    | some (_, _, n) => return n
    | none =>
      let text := v.text name index
      if isNumber text then return numberOf text
      else match v.dialect with
      | .plain => throw ("Illegal number: " ++ text)
      | .rich =>
        match { v with whole := text }.read text.toList with
        | .error complaint => throw complaint
        | .ok term => compute v fuel term

/-- The value of an expression. -/
def compute (v : View) : Nat → Term → Computation Int
  | 0, _ => throw (v.whole ++ ": expression recursion level exceeded")
  | fuel + 1, term => do
    let place (index : Option Term) : Computation (Option Int) := do
      match index with
      | none => return none
      | some index => return some (← compute v fuel index)
    let combine (operator : String) (a b : Int) : Computation Int :=
      match apply operator a b with
      | some n => return n
      | none =>
        let divisor := (v.whole.toList.reverse.takeWhile fun c => c ≠ '/' && c ≠ '%').reverse
        throw (v.complaint ⟨if v.dialect = .plain then "division by zero" else "division by 0",
          divisor⟩)
    match term with
    | .number n => return n
    | .value name index => held v fuel name (← place index)
    | .unary operator operand =>
      let n ← compute v fuel operand
      return match operator with
        | '-' => wrapped (-n)
        | '!' => truth (n = 0)
        | '~' => -n - 1
        | _ => n
    | .binary operator first second =>
      let a ← compute v fuel first
      let b ← compute v fuel second
      combine operator a b
    | .both first second =>
      if (← compute v fuel first) = 0 then return 0
      return truth ((← compute v fuel second) ≠ 0)
    | .either first second =>
      if (← compute v fuel first) ≠ 0 then return 1
      return truth ((← compute v fuel second) ≠ 0)
    | .choose condition yes no =>
      if (← compute v fuel condition) ≠ 0 then compute v fuel yes else compute v fuel no
    | .assign name index operator value =>
      let index ← place index
      let n ← compute v fuel value
      let n ← match operator with
        | none => pure n
        | some operator => do combine operator (← held v fuel name index) n
      modify fun settings => (name, index, n) :: settings
      return n
    | .step name index amount before =>
      let index ← place index
      let old ← held v fuel name index
      let n := wrapped (old + amount)
      modify fun settings => (name, index, n) :: settings
      return if before then old else n
    | .comma first second =>
      let _ ← compute v fuel first
      compute v fuel second

end

/-- The value of an expression, and what it sets, the latest settings first. -/
def evaluate (v : View) (text : List Char) : Except String (Int × List Setting) := do
  let term ← v.read text
  (v.compute (16 * (text.length + 64)) term).run []

end View

end SmellRefactor.Shell.Arithmetic
