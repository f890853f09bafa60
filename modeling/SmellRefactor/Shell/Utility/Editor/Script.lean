import SmellRefactor.Shell.Expression.Reader
import SmellRefactor.Shell.ByteText

/-!
# Scripts of the stream editor

A script is a row of steps.  Each step is a command and a choice of the lines for which it is done.
A block is a step that leads behind its end for the lines that are not chosen, so that all steps
stand in one row and a place in the row says what comes next.
-/

namespace SmellRefactor.Shell

/-! ## Steps -/

/-- What a line is matched with; without an expression, the one that was used last. -/
structure EditPattern where
  expression : Option Expression
  folded : Bool
  multiline : Bool
deriving Repr

/-- A choice of single lines. -/
inductive EditAddress where
  | line (number : Nat)
  | last
  | every (first step : Nat)
  | fits (pattern : EditPattern)
deriving Repr

/-- Where a range of lines ends. -/
inductive EditEnd where
  | at (address : EditAddress)
  | behind (count : Nat)
  | multiple (factor : Nat)
deriving Repr

/-- The lines for which a step is done. -/
structure EditChoice where
  first : Option EditAddress
  stop : Option EditEnd
  /-- The choice is turned around. -/
  negated : Bool
deriving Repr

/-- A change of the case of letters in what is put in. -/
inductive CaseChange where
  | upper
  | lower
  | ended
  | nextUpper
  | nextLower
deriving DecidableEq, Repr

/-- A part of what is put in for a match. -/
inductive ReplacementPart where
  | text (chars : List Char)
  /-- What a group has taken, or the whole match under the number zero. -/
  | group (number : Nat)
  | change (change : CaseChange)
deriving Repr

/-- How matches are replaced. -/
structure Substitution where
  pattern : EditPattern
  parts : List ReplacementPart
  /-- The first match that is replaced. -/
  first : Nat
  /-- Whether those behind it are replaced, too. -/
  all : Bool
  /-- How often the line is printed after that. -/
  printed : Bool
  /-- Whether the line is then run as a command, whose output takes its place. -/
  run : Bool
  /-- Where the line is written after that. -/
  path : Option String
deriving Repr

/-- A command. -/
inductive EditCommand where
  /-- Goes to a place if the line is not chosen. -/
  | block (stop : Nat)
  | nothing
  | label (name : String)
  /-- Goes to a label, or to the end; only if something has been replaced, or nothing. -/
  | branch (replaced : Option Bool) (label : String)
  | tellNumber
  | tellName
  | append (text : String)
  | insert (text : String)
  | change (text : String)
  | delete
  | deleteLine
  | takeHold
  | appendHold
  | keep
  | keepMore
  | exchange
  | list (width : Option Nat)
  | next
  | nextMore
  | print
  | printLine
  | quit (status : Nat) (silently : Bool)
  | readFile (path : String)
  | readLine (path : String)
  | writeFile (path : String)
  | writeLine (path : String)
  | substitute (substitution : Substitution)
  | transliterate (pairs : List (Char × Char))
  | clear
  | run (command : String)
deriving Repr

/-- A step of a script. -/
structure EditStep where
  choice : EditChoice
  command : EditCommand
deriving Repr

/-! ## Reading -/

/-- Reads a script from its characters.  An error says how many characters were left. -/
abbrev EditReader := StateT (List Char) (Except (String × Nat))

namespace EditReader

/-- Stops because of an error. -/
def fault {α : Type} (text : String) : EditReader α := do throw (text, (← get).length)

/-- Takes the next character, if there is one. -/
def next : EditReader (Option Char) := do
  match ← get with
  | [] => return none
  | c :: rest =>
    set rest
    return some c

/-- Skips blanks. -/
def skipBlanks : EditReader Unit :=
  modify fun text => text.dropWhile fun c => c = ' ' || c = '\t'

/-- Skips white space and ends of commands. -/
def skipEnds : EditReader Unit :=
  modify fun text => text.dropWhile fun c => c = ' ' || c = ';' || ('\t' ≤ c && c ≤ '\r')

/-- Takes the next character behind blanks, if there is one. -/
def nextMark : EditReader (Option Char) := do
  skipBlanks
  next

/-- Takes digits. -/
def digits : EditReader (List Char) := do
  let text ← get
  let found := text.takeWhile Char.isDigit
  set (text.drop found.length)
  return found

/-- Takes a number. -/
def number : EditReader Nat := do return Decimal.valueOf 10 (← digits)

/-- Takes the rest of the line. -/
def line : EditReader (List Char) := do
  let text ← get
  let found := text.takeWhile (· ≠ '\n')
  set (text.drop (found.length + 1))
  return found

/-- Makes sure that a command ends here. -/
def commandEnd : EditReader Unit := do
  skipBlanks
  match ← get with
  | [] => return
  | c :: rest =>
    if c = '\x7d' || c = '#' then return
    else
      set rest
      if c = '\n' || c = ';' then return
      else fault "extra characters after command"

/-- The members of a bracket up to its end, backwards before what has been found, and what comes
behind them. -/
def bracketMembers (found : List Char) : List Char → List Char × List Char
  | '[' :: ':' :: rest =>
    let name := rest.takeWhile fun c => c ≠ ']' && c ≠ '\n'
    bracketMembers (name.reverse ++ ':' :: '[' :: found) (rest.drop name.length)
  | ']' :: rest =>
    -- The bracket behind the name of a class does not end the members.
    if found.head? = some ':' && (found.tail.dropWhile Char.isAlpha).take 2 = [':', '['] then
      bracketMembers (']' :: found) rest
    else (found, ']' :: rest)
  | '\n' :: rest => (found, '\n' :: rest)
  | '\\' :: 'n' :: rest => bracketMembers ('\n' :: found) rest
  | '\\' :: '/' :: rest => bracketMembers ('/' :: found) rest
  | c :: rest => bracketMembers (c :: found) rest
  | [] => (found, [])
termination_by text => text.length

/-- A text up to a mark.  A backslash before the mark takes away its meaning, as does a bracket
around it in an expression, where `\n` stands for the end of a line. -/
def upTo (mark : Char) (inExpression : Bool) (complaint : String) : EditReader (List Char) := do
  let text ← get
  let (found, rest) := go (text.length + 1) [] text
  set rest
  match found with
  | some text => return text
  | none => fault complaint
where
  /-- Goes through the text, with what has been found backwards. -/
  go : Nat → List Char → List Char → Option (List Char) × List Char
    | 0, _, text => (none, text)
    | _, _, [] => (none, [])
    | _, _, ['\\'] => (none, [])
    | fuel + 1, found, '\\' :: c :: rest =>
      if c = 'n' && inExpression && mark ≠ 'n' then go fuel ('\n' :: found) rest
      else if c = mark && (inExpression || c ≠ '&') then go fuel (c :: found) rest
      else if c = '\n' then go fuel (c :: found) rest
      else go fuel (c :: '\\' :: found) rest
    | fuel + 1, found, c :: rest =>
      if c = mark then (some found.reverse, rest)
      else if c = '\n' && inExpression then (none, c :: rest)
      else if c = '[' && inExpression then
        let start := rest.takeWhile (· = '^') |>.take 1
        let start := if (rest.drop start.length).head? = some ']' then start ++ [']'] else start
        let (found, rest) := bracketMembers (start.reverse ++ c :: found) (rest.drop start.length)
        go fuel found rest
      else go fuel (c :: found) rest

/-- The character that a number in some base stands for, written with at most so many digits. -/
def coded (base width : Nat) (text : List Char) : Option (Char × List Char) :=
  let digits := (text.take width).takeWhile (Decimal.isDigitOf base)
  if digits.isEmpty then none
  else some (Char.ofNat (Decimal.valueOf base digits % 256), text.drop digits.length)

/-- The character that a letter behind a backslash stands for, together with what follows it. -/
def escaped (text : List Char) : Option (Char × List Char) :=
  match text with
  | 'x' :: rest => coded 16 2 rest
  | 'o' :: rest => coded 8 3 rest
  | 'd' :: rest => coded 10 3 rest
  | 'c' :: c :: rest => some (Char.ofNat (c.toUpper.toNat ^^^ 64), rest)
  | c :: rest =>
    if c = 'n' || c = 'r' then none else (Expression.controlLetter? c).map fun d => (d, rest)
  | [] => none

/-- An expression in which numbers of characters are replaced by the characters. -/
def plainExpression : Nat → List Char → List Char
  | 0, text => text
  | _, [] => []
  | fuel + 1, '\\' :: c :: rest =>
    match if c = 'x' || c = 'o' || c = 'd' || c = 'c' then escaped (c :: rest) else none with
    | some (d, rest) =>
      (if "*.[]^$\\+?()\x7b\x7d|/".toList.contains d then ['\\', d] else [d]) ++
        plainExpression fuel rest
    | none => '\\' :: c :: plainExpression fuel rest
  | fuel + 1, c :: rest => c :: plainExpression fuel rest

/-- The pattern that an expression writes. -/
def pattern (extended : Bool) (text : List Char) (folded multiline : Bool) :
    EditReader EditPattern := do
  if text.isEmpty then return ⟨none, folded, multiline⟩
  match Expression.ofString (.ofEditor extended) (plainExpression (text.length + 1) text) with
  | .ok e => return ⟨some e, folded, multiline⟩
  | .error problem => fault problem.message

/-- The letters behind an expression that chooses lines. -/
def patternFlags : Nat → Bool → Bool → EditReader (Bool × Bool)
  | 0, folded, multiline => return (folded, multiline)
  | fuel + 1, folded, multiline => do
    match ← get with
    | 'I' :: rest =>
      set rest
      patternFlags fuel true multiline
    | 'M' :: rest =>
      set rest
      patternFlags fuel folded true
    | _ => return (folded, multiline)

/-- Takes a choice of single lines, if there is one. -/
def address? (extended : Bool) : EditReader (Option EditAddress) := do
  let matching (mark : Char) : EditReader (Option EditAddress) := do
    let text ← upTo mark true "unterminated address regex"
    let (folded, multiline) ← patternFlags ((← get).length + 1) false false
    return some (.fits (← pattern extended text folded multiline))
  match ← get with
  | '$' :: rest =>
    set rest
    return some .last
  | '/' :: rest =>
    set rest
    matching '/'
  | '\\' :: mark :: rest =>
    set rest
    matching mark
  | c :: _ =>
    if !c.isDigit then return none
    let first ← number
    match ← get with
    | '~' :: rest =>
      set rest
      return some (.every first (← number))
    | _ => return some (.line first)
  | [] => return none

/-- Takes the end of a range of lines. -/
def rangeEnd (extended : Bool) : EditReader EditEnd := do
  skipBlanks
  match ← get with
  | '+' :: c :: _ =>
    modify List.tail
    if c.isDigit then return .behind (← number) else fault "expected number"
  | '~' :: c :: _ =>
    modify List.tail
    if c.isDigit then return .multiple (← number) else fault "expected number"
  | _ =>
    match ← address? extended with
    | some address => return .at address
    | none =>
      let _ ← next
      fault "unexpected \x60,'"

/-- Takes the marks that turn a choice around. -/
def negation : EditReader Bool := do
  skipBlanks
  match ← get with
  | '!' :: rest =>
    set rest
    skipBlanks
    if (← get).head? = some '!' then
      let _ ← next
      fault "multiple \x60!'s"
    return true
  | _ => return false

/-- Takes the choice of the lines for a command. -/
def choice (extended : Bool) : EditReader EditChoice := do
  match ← address? extended with
  | none => return ⟨none, none, ← negation⟩
  | some first =>
    skipBlanks
    match ← get with
    | ',' :: rest =>
      set rest
      let stop ← rangeEnd extended
      return ⟨some first, some stop, ← negation⟩
    | _ => return ⟨some first, none, ← negation⟩

/-- Takes the text of a command that adds lines.  A backslash before the end of a line lets the text
go on; any other one is dropped. -/
def addedText : EditReader String := do
  skipBlanks
  match ← get with
  | [] => fault "expected \\ after \x60a', \x60c' or \x60i'"
  | '\\' :: rest =>
    -- Blanks behind the backslash count, unless only they stand before the end of the line.
    let behind := rest.dropWhile fun c => c = ' ' || c = '\t'
    match behind with
    | '\n' :: text => set text
    | _ => set rest
    if (← get).isEmpty then return ""
  | _ => pure ()
  let (found, rest) := go [] (← get)
  set rest
  return String.ofList (found ++ ['\n'])
where
  /-- Goes through the text, with what has been found backwards. -/
  go (found : List Char) : List Char → List Char × List Char
    | [] => (found.reverse, [])
    | '\n' :: rest => (found.reverse, rest)
    | ['\\'] => (found.reverse, [])
    | '\\' :: c :: rest =>
      match if c = 't' || c = 'f' || c = 'v' || c = 'a' then Expression.controlLetter? c else none
      with
      | some d => go (d :: found) rest
      | none => go (c :: found) rest
    | c :: rest => go (c :: found) rest

/-- Takes the name of a file. -/
def path : EditReader String := do
  skipBlanks
  let name ← line
  if name.isEmpty then fault "missing filename in r/R/w/W commands"
  return String.ofList name

/-- Takes the name of a label to which a command goes. -/
def labelName : EditReader String := do
  skipBlanks
  let text ← get
  let name := text.takeWhile fun c => c ≠ ';' && c ≠ '\x7d' && c ≠ ' ' && !('\t' ≤ c && c ≤ '\r')
  set (text.drop name.length)
  return String.ofList name

/-- The parts of what is put in for a match. -/
def parts : Nat → List Char → List Char → List ReplacementPart
  | 0, found, _ => [.text found.reverse]
  | fuel + 1, found, text =>
    let cut (part : ReplacementPart) (rest : List Char) : List ReplacementPart :=
      (if found.isEmpty then [] else [.text found.reverse]) ++ part :: parts fuel [] rest
    match text with
    | [] => if found.isEmpty then [] else [.text found.reverse]
    | '&' :: rest => cut (.group 0) rest
    | '\\' :: c :: rest =>
      if c.isDigit then cut (.group (c.toNat - 48)) rest
      else match c with
      | 'U' => cut (.change .upper) rest
      | 'L' => cut (.change .lower) rest
      | 'E' => cut (.change .ended) rest
      | 'u' => cut (.change .nextUpper) rest
      | 'l' => cut (.change .nextLower) rest
      | 'n' => parts fuel ('\n' :: found) rest
      | 'r' => parts fuel ('\r' :: found) rest
      | _ =>
        match escaped (c :: rest) with
        | some (d, rest) => parts fuel (d :: found) rest
        | none => parts fuel (c :: found) rest
    | c :: rest => parts fuel (c :: found) rest

/-- The options of a replacement. -/
structure SubstitutionFlags where
  count : Option Nat
  all : Bool
  printed : Bool
  folded : Bool
  multiline : Bool
  run : Bool
  path : Option String

/-- Takes the options of a replacement. -/
def substitutionFlags : Nat → SubstitutionFlags → EditReader SubstitutionFlags
  | 0, flags => return flags
  | fuel + 1, flags => do
    match ← get with
    | [] => return flags
    | '\x7d' :: _ | '#' :: _ => return flags
    | c :: rest =>
      if c.isDigit then
        let count ← number
        if count = 0 then fault "number option to \x60s' command may not be zero"
        else if flags.count.isSome then fault "multiple number options to \x60s' command"
        else substitutionFlags fuel { flags with count := some count }
      else
        set rest
        match c with
        | '\n' | ';' => return flags
        | ' ' | '\t' => substitutionFlags fuel flags
        | 'g' =>
          if flags.all then fault "multiple \x60g' options to \x60s' command"
          else substitutionFlags fuel { flags with all := true }
        | 'p' =>
          if flags.printed then fault "multiple \x60p' options to \x60s' command"
          else substitutionFlags fuel { flags with printed := true }
        | 'i' | 'I' => substitutionFlags fuel { flags with folded := true }
        | 'm' | 'M' => substitutionFlags fuel { flags with multiline := true }
        | 'e' => substitutionFlags fuel { flags with run := true }
        | 'w' => return { flags with path := some (← path) }
        | _ => fault "unknown option to \x60s'"

/-- Takes a replacement. -/
def substitution (extended : Bool) : EditReader EditCommand := do
  let unfinished := "unterminated \x60s' command"
  match ← next with
  | none => fault unfinished
  | some mark =>
    let expression ← upTo mark true unfinished
    let replacement ← upTo mark false unfinished
    let flags ← substitutionFlags ((← get).length + 1) ⟨none, false, false, false, false, false, none⟩
    let pattern ← pattern extended expression flags.folded flags.multiline
    let parts := parts (replacement.length + 1) [] replacement
    let highest := parts.foldl
      (fun n part => match part with
        | .group k => max n k
        | _ => n) 0
    match pattern.expression with
    | some e =>
      if e.groupCount < highest then
        fault ("invalid reference \\" ++ toString highest ++ " on \x60s' command's RHS")
    | none => pure ()
    return .substitute ⟨pattern, parts, flags.count.getD 1, flags.all, flags.printed, flags.run,
      flags.path⟩

/-- The characters of a list of characters, in which a backslash may stand before some. -/
def listedChars : List Char → List Char
  | '\\' :: 'n' :: rest => '\n' :: listedChars rest
  | '\\' :: 't' :: rest => '\t' :: listedChars rest
  | '\\' :: '\\' :: rest => '\\' :: listedChars rest
  | c :: rest => c :: listedChars rest
  | [] => []

/-- Takes the characters that are put in the place of others. -/
def transliteration : EditReader EditCommand := do
  let unfinished := "unterminated \x60y' command"
  match ← next with
  | none => fault unfinished
  | some mark =>
    let source := listedChars (← upTo mark false unfinished)
    let target := listedChars (← upTo mark false unfinished)
    if source.length ≠ target.length then
      fault "strings for \x60y' command are different lengths"
    commandEnd
    return .transliterate (source.zip target)

/-- The commands without arguments. -/
def plainCommand? : Char → Option EditCommand
  | '=' => some .tellNumber
  | 'F' => some .tellName
  | 'd' => some .delete
  | 'D' => some .deleteLine
  | 'g' => some .takeHold
  | 'G' => some .appendHold
  | 'h' => some .keep
  | 'H' => some .keepMore
  | 'x' => some .exchange
  | 'n' => some .next
  | 'N' => some .nextMore
  | 'p' => some .print
  | 'P' => some .printLine
  | 'z' => some .clear
  | _ => none

/-- Takes a command other than a block, given its letter. -/
def command (extended : Bool) (choice : EditChoice) (letter : Char) : EditReader EditCommand := do
  match plainCommand? letter with
  | some command =>
    commandEnd
    return command
  | none =>
    match letter with
    | '#' =>
      let _ ← line
      return .nothing
    | ':' =>
      if choice.first.isSome then fault ": doesn't want any addresses"
      skipBlanks
      let text ← get
      let name := text.takeWhile fun c => c ≠ ';' && c ≠ ' ' && !('\t' ≤ c && c ≤ '\r')
      set (text.drop name.length)
      if name.isEmpty then fault "\":\" lacks a label"
      return .label (String.ofList name)
    | 'b' | 't' | 'T' =>
      let name ← labelName
      commandEnd
      return .branch (if letter = 'b' then none else some (letter = 't')) name
    | 'a' => return .append (← addedText)
    | 'i' => return .insert (← addedText)
    | 'c' => return .change (← addedText)
    | 'q' | 'Q' =>
      if choice.stop.isSome then fault "command only uses one address"
      skipBlanks
      let status ← number
      commandEnd
      return .quit status (letter = 'Q')
    | 'l' | 'L' =>
      skipBlanks
      let width ← digits
      commandEnd
      return .list (if width.isEmpty then none else some (Decimal.valueOf 10 width))
    | 'r' => return .readFile (← path)
    | 'R' => return .readLine (← path)
    | 'w' => return .writeFile (← path)
    | 'W' => return .writeLine (← path)
    | 's' => substitution extended
    | 'y' => transliteration
    | 'e' =>
      skipBlanks
      return .run (String.ofList (← line))
    | 'v' =>
      let _ ← line
      return .nothing
    | c => fault ("unknown command: \x60" ++ c.toString ++ "'")

end EditReader

/-- A script as far as it has been read: its steps, and the places of the blocks that are open, with
the number of the part of the script that holds them. -/
structure EditScript where
  steps : Array EditStep
  opened : List (Nat × Nat)

namespace EditScript

/-- Whether a choice begins with line zero without a pattern behind it. -/
def isBadChoice (choice : EditChoice) : Bool :=
  match choice.first, choice.stop with
  | some (.line 0), some (.at (.fits _)) => false
  | some (.line 0), _ => true
  | _, _ => false

/-- Reads the steps of one part of a script. -/
def readSteps (extended : Bool) (part : Nat) : Nat → EditScript → EditReader EditScript
  | 0, script => return script
  | fuel + 1, script => do
    EditReader.skipEnds
    if (← get).isEmpty then return script
    let choice ← EditReader.choice extended
    match ← EditReader.nextMark with
    | none => EditReader.fault "missing command"
    | some letter =>
      if isBadChoice choice then EditReader.fault "invalid usage of line address 0"
      let here := script.steps.size
      match letter with
      | '\x7b' =>
        readSteps extended part fuel
          ⟨script.steps.push ⟨choice, .block 0⟩, (here, part) :: script.opened⟩
      | '\x7d' =>
        match script.opened with
        | [] => EditReader.fault "unexpected \x60\x7d'"
        | (place, _) :: opened =>
          if choice.first.isSome then EditReader.fault "\x7d doesn't want any addresses"
          EditReader.commandEnd
          let steps := script.steps.modify place fun step =>
            { step with command := .block here }
          readSteps extended part fuel ⟨steps, opened⟩
      | letter =>
        let command ← EditReader.command extended choice letter
        readSteps extended part fuel
          ⟨script.steps.push ⟨choice, command⟩, script.opened⟩

end EditScript

end SmellRefactor.Shell
