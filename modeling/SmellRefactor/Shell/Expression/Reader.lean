import SmellRefactor.Decimal.Numeral
import SmellRefactor.Shell.Expression

/-!
# Reading regular expressions

Basic expressions write groups, intervals and alternatives with a backslash, extended ones without.
What a program adds to this is part of the flavor of its expressions.
-/

namespace SmellRefactor.Shell.Expression

/-- How expressions are written. -/
structure Flavor where
  extended : Bool := false
  /-- Letters behind a backslash stand for control characters. -/
  escapes : Bool := false
  /-- A backslash between brackets protects the character behind it. -/
  protects : Bool := false
  /-- An operator of repetition has to stand behind something. -/
  strict : Bool := false
  /-- A closing parenthesis that closes nothing stands for itself. -/
  lenient : Bool := false
  /-- More letters behind a backslash stand for classes, and some groups are not remembered. -/
  enriched : Bool := false
  /-- An alternative and an operand have to be there, unless the expression is empty as a whole. -/
  filled : Bool := false

namespace Flavor

/-- Basic expressions. -/
def basic : Flavor := {}

/-- Extended expressions. -/
def extendedOne : Flavor := { extended := true, lenient := true }

/-- Extended expressions with some additions. -/
def enrichedOne : Flavor := { extended := true, escapes := true, protects := true, enriched := true }

/-- The extended expressions of conditions. -/
def ofConditions : Flavor := { extended := true, strict := true, lenient := true }

/-- The basic or extended expressions of a stream editor. -/
def ofEditor (extended : Bool) : Flavor :=
  { extended := extended, escapes := true, strict := extended }

/-- The expressions of programs of rules. -/
def ofRules : Flavor :=
  { extended := true, escapes := true, protects := true, lenient := true, filled := true }

end Flavor

/-- What is wrong with an expression. -/
inductive Problem where
  | openGroup
  | closeGroup
  | openBracket
  | openInterval
  | interval
  | reference
  | backslash
  | range
  | className
  | repetition
  | pattern
  | size
deriving DecidableEq, Repr

/-- The wording of a problem. -/
def Problem.message : Problem → String
  | openGroup => "Unmatched ( or \\("
  | closeGroup => "Unmatched ) or \\)"
  | openBracket => "Unmatched [, [^, [:, [., or [="
  | openInterval => "Unmatched \\\x7b"
  | interval => "Invalid content of \\\x7b\\\x7d"
  | reference => "Invalid back reference"
  | backslash => "Trailing backslash"
  | range => "Invalid range end"
  | className => "Invalid character class name"
  | repetition => "Invalid preceding regular expression"
  | pattern => "Invalid regular expression"
  | size => "Regular expression too big"

/-- The control character that a letter stands for. -/
def controlLetter? : Char → Option Char
  | 'n' => some '\n'
  | 't' => some '\t'
  | 'f' => some '\x0c'
  | 'v' => some '\x0b'
  | 'a' => some '\x07'
  | 'r' => some '\r'
  | _ => none

/-- A character that is named between brackets, or a whole class, and what comes behind it. -/
def readMember (flavor : Flavor) (text : List Char) :
    Except Problem (Option Char × List (Char × Char) × List Char) :=
  match text with
  | [] => .error .openBracket
  | '[' :: '.' :: c :: '.' :: ']' :: rest => .ok (some c, [(c, c)], rest)
  | '[' :: '=' :: c :: '=' :: ']' :: rest => .ok (none, [(c, c)], rest)
  | '[' :: ':' :: rest =>
    match readClass text with
    | some (ranges, rest) => .ok (none, ranges, rest)
    | none => .error (if rest.contains ':' then .className else .openBracket)
  | '\\' :: c :: rest =>
    match if flavor.escapes then controlLetter? c else none with
    | some d => .ok (some d, [(d, d)], rest)
    | none =>
      if flavor.protects then .ok (some c, [(c, c)], rest)
      else .ok (some '\\', [('\\', '\\')], c :: rest)
  | c :: rest => .ok (some c, [(c, c)], rest)

/-- The members of a bracket, up to its end. -/
def readMembers (flavor : Flavor) : Nat → Bool → List Char →
    Except Problem (List (Char × Char) × List Char)
  | 0, _, _ => .error .openBracket
  | fuel + 1, atStart, text => do
    if text.isEmpty then throw .openBracket
    else if text.head? = some ']' && !atStart then return ([], text.tail)
    else
      let (first, found, rest) ← readMember flavor text
      -- A hyphen is a member only at the beginning and at the end.
      if !flavor.protects && !atStart && text.head? = some '-' && rest.head? ≠ some ']' then
        throw .range
      match first, rest with
      | some c, '-' :: d :: behind =>
        if d = ']' then
          let (ranges, rest) ← readMembers flavor fuel false rest
          return (found ++ ranges, rest)
        else
          let (last, _, behind) ← readMember flavor (d :: behind)
          let some last := last | throw .range
          if last < c then throw .range
          let (ranges, rest) ← readMembers flavor fuel false behind
          return ((c, last) :: ranges, rest)
      | _, rest =>
        let (ranges, rest) ← readMembers flavor fuel false rest
        return (found ++ ranges, rest)

/-- A bracket, behind its opening. -/
def readBracket (flavor : Flavor) (text : List Char) : Except Problem (Expression × List Char) := do
  let negated := text.head? = some '^'
  let inner := if negated then text.tail else text
  if inner.isEmpty then throw .pattern
  let (ranges, rest) ← readMembers flavor (inner.length + 1) true inner
  return (.character (.oneOf negated ranges), rest)

/-- The largest number of repetitions. -/
def repetitionLimit : Nat := 32767

/-- The numbers between the braces of an interval, behind the opening one, and what comes behind
them; nothing if this is no interval. -/
def readBounds (text : List Char) : Option (Except Problem (Nat × Option Nat × List Char)) :=
  let digits := text.takeWhile Char.isDigit
  let least := Decimal.valueOf 10 digits
  match text.dropWhile Char.isDigit with
  | ',' :: rest =>
    let more := rest.takeWhile Char.isDigit
    let most := if more.isEmpty then none else some (Decimal.valueOf 10 more)
    some (if most.any (· < least) then .error .interval
      else if repetitionLimit < least || most.any (repetitionLimit < ·) then .error .size
      else .ok (least, most, rest.dropWhile Char.isDigit))
  | rest =>
    if digits.isEmpty then none
    else some (if repetitionLimit < least then .error .size else .ok (least, some least, rest))

/-- The expression that repeats another one as the text behind it says, and what comes behind. -/
def readRepetitions (flavor : Flavor) : Nat → Expression → List Char →
    Except Problem (Expression × List Char)
  | 0, e, text => .ok (e, text)
  | fuel + 1, e, text =>
    let more := readRepetitions flavor fuel
    match flavor.extended, text with
    | _, '*' :: rest => more (.repeated e) rest
    | true, '+' :: rest | false, '\\' :: '+' :: rest => more (.sequence e (.repeated e)) rest
    | true, '?' :: rest | false, '\\' :: '?' :: rest => more (.either e .empty) rest
    | true, '\x7b' :: rest =>
      match readBounds rest with
      | some (.ok (least, most, '\x7d' :: rest)) => more (e.between least most) rest
      | some (.error problem) => .error problem
      | _ => if flavor.strict then .error .interval else .ok (e, text)
    | false, '\\' :: '\x7b' :: rest =>
      match readBounds rest with
      | some (.ok (least, most, '\\' :: '\x7d' :: rest)) => more (e.between least most) rest
      | some (.error problem) => .error problem
      | _ => .error (if rest.contains '\x7d' then .interval else .openInterval)
    | _, _ => .ok (e, text)

/-- What a backslash and a character stand for, other than groups and operators. -/
def readEscaped (flavor : Flavor) (groups : Nat) (c : Char) : Except Problem Expression :=
  let word := [('a', 'z'), ('A', 'Z'), ('0', '9'), ('_', '_')]
  let space := [('\t', '\r'), (' ', ' ')]
  match c with
  | 'w' => .ok (.character (.oneOf false word))
  | 'W' => .ok (.character (.oneOf true word))
  | 's' => .ok (.character (.oneOf false space))
  | 'S' => .ok (.character (.oneOf true space))
  | '<' => .ok (.anchor .wordStart)
  | '>' => .ok (.anchor .wordEnd)
  | 'b' => .ok (.anchor .wordEdge)
  | 'B' => .ok (.anchor .noWordEdge)
  | '\x60' => .ok (.anchor .textStart)
  | '\'' => .ok (.anchor .textEnd)
  | c =>
    if flavor.enriched && (c = 'd' || c = 'D') then
      .ok (.character (.oneOf (c = 'D') [('0', '9')]))
    else if c.isDigit && c ≠ '0' && !flavor.protects then
      let number := Decimal.valueOf 10 [c]
      if number ≤ groups then .ok (.reference number) else .error .reference
    else
      match if flavor.escapes then controlLetter? c else none with
      | some d => .ok (.character (.exactly d))
      | none => .ok (.character (.exactly c))

/-- Whether an alternative ends here. -/
def atBranchEnd (flavor : Flavor) (inGroup : Bool) : List Char → Bool
  | [] => true
  | '\\' :: '|' :: _ => !flavor.extended
  | '\\' :: ')' :: _ => !flavor.extended
  | '|' :: _ => flavor.extended
  | ')' :: _ => flavor.extended && inGroup
  | _ => false

mutual

/-- Reads alternatives.  The numbers are the groups that have been closed and those that have been
opened before. -/
def readAlternatives (flavor : Flavor) : Nat → Bool → Nat → List Char →
    Except Problem (Expression × Nat × List Char)
  | 0, _, _, _ => .error .openGroup
  | fuel + 1, inGroup, groups, text => do
    let empty := !text.isEmpty && atBranchEnd flavor inGroup text
    if flavor.filled && empty then throw .repetition
    let (first, groups, rest) ← readBranch flavor fuel inGroup true groups text
    match flavor.extended, rest with
    | true, '|' :: rest | false, '\\' :: '|' :: rest =>
      if flavor.filled && rest.isEmpty then throw .repetition
      let (second, groups, rest) ← readAlternatives flavor fuel inGroup groups rest
      return (.either first second, groups, rest)
    | _, rest => return (first, groups, rest)

/-- Reads the parts of an alternative. -/
def readBranch (flavor : Flavor) : Nat → Bool → Bool → Nat → List Char →
    Except Problem (Expression × Nat × List Char)
  | 0, _, _, _, _ => .error .openGroup
  | fuel + 1, inGroup, atStart, groups, text => do
    if atBranchEnd flavor inGroup text then return (.empty, groups, text)
    let more (e : Expression) (anchor : Bool) (groups : Nat) (rest : List Char) :
        Except Problem (Expression × Nat × List Char) := do
      let (e, rest) ← if anchor && !flavor.extended then pure (e, rest)
        else readRepetitions flavor (rest.length + 1) e rest
      let (others, groups, rest) ← readBranch flavor fuel inGroup (anchor && atStart) groups rest
      return (match others with | .empty => e | others => .sequence e others, groups, rest)
    let literal (c : Char) (rest : List Char) := more (.character (.exactly c)) false groups rest
    let isGroup := match flavor.extended, text with
      | true, '(' :: _ | false, '\\' :: '(' :: _ => true
      | _, _ => false
    if isGroup then
      let inner := text.drop (if flavor.extended then 1 else 2)
      let (forgotten, inner) := match flavor.enriched, inner with
        | true, '?' :: ':' :: inner => (true, inner)
        | _, inner => (false, inner)
      let number := if forgotten then groups else groups + 1
      let (body, groups, rest) ← readAlternatives flavor fuel true number inner
      match flavor.extended, rest with
      | true, ')' :: rest | false, '\\' :: ')' :: rest =>
        more (if forgotten then body else .group number body) false groups rest
      | _, _ => throw .openGroup
    else match text with
    | '^' :: rest =>
      if flavor.extended || atStart then more (.anchor .lineStart) true groups rest
      else literal '^' rest
    | '$' :: rest =>
      if flavor.extended || atBranchEnd flavor inGroup rest then
        more (.anchor .lineEnd) true groups rest
      else literal '$' rest
    | '.' :: rest => more (.character .any) false groups rest
    | '[' :: rest =>
      let (e, rest) ← readBracket flavor rest
      more e false groups rest
    | ['\\'] => throw .backslash
    | '\\' :: c :: rest => more (← readEscaped flavor groups c) false groups rest
    | c :: rest =>
      if atStart && (c = '*' || (flavor.extended && (c = '+' || c = '?'))) then
        if flavor.strict || flavor.filled then throw .repetition
        else if flavor.extended then readBranch flavor fuel inGroup true groups rest
        else literal c rest
      else if flavor.extended && c = ')' && !flavor.lenient then throw .closeGroup
      else if flavor.extended && atStart && c = '\x7b' then
        match readBounds rest with
        | some (.ok (_, _, '\x7d' :: rest)) =>
          if flavor.strict then throw .repetition
          else readBranch flavor fuel inGroup true groups rest
        | _ => literal c rest
      else literal c rest
    | [] => return (.empty, groups, [])

end

/-- The expression that a text writes. -/
def ofString (flavor : Flavor) (text : List Char) : Except Problem Expression := do
  let (e, _, rest) ← readAlternatives flavor (4 * (text.length + 2)) false 0 text
  if rest.isEmpty then return e else throw .closeGroup

/-- The number of groups of an expression. -/
def groupCount : Expression → Nat
  | sequence a b | either a b => max a.groupCount b.groupCount
  | repeated a => a.groupCount
  | group n a => max n a.groupCount
  | _ => 0

end SmellRefactor.Shell.Expression
