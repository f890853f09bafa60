import SmellRefactor.Shell.Utility.Basic
import SmellRefactor.Shell.Utility.Rules.Reader
import SmellRefactor.Shell.Utility.Rules.Value

/-!
# The state of a program of rules

Variables, tables, the current record with its fields, and the inputs and outputs that are open.
What is printed is kept back until another program is started or the output is flushed.
-/

namespace SmellRefactor.Shell.Rules

open Decimal

/-- What a variable holds. -/
inductive Cell where
  /-- Nothing so far.  If the variable has been given to a function, its table has a number. -/
  | unset (table : Option Nat)
  | value (v : Value)
  | table (number : Nat)
deriving Inhabited

/-- An output that is open: a file with a channel, or a command with what it will read. -/
structure Outlet where
  name : String
  isCommand : Bool
  channel : Option Channel
  texts : List String

/-- An input that is open: what is left of it, and for a command its status. -/
structure Inlet where
  name : String
  isCommand : Bool
  left : List Char
  status : Nat

/-- The state of a program of rules. -/
structure State where
  machine : Machine
  shared : Std.HashMap String Cell
  /-- What the variables of the running function hold. -/
  own : Array Cell
  /-- How many values the functions that run have put aside. -/
  aside : Nat
  tables : Array Table
  record : String
  fields : Array Value
  fieldSeparator : Separator
  recordSeparator : Separator
  /-- What has been printed, the last text first. -/
  printed : List String
  outlets : List Outlet
  inlets : List Inlet
  /-- What is left of the file that is read. -/
  main : Option (List Char)
  /-- The number of the argument that is looked at next, and whether one of them has been a file. -/
  argument : Nat
  hasFiles : Bool
  /-- The rules whose ranges have begun. -/
  begun : List Nat
  seed : Nat
  status : Nat

/-- The value of a variable of the whole program. -/
def State.valueOf (s : State) (name : String) : Value :=
  match s.shared[name]? with
  | some (.value v) => v
  | _ => .unset

/-- How numbers become texts where nothing is printed. -/
def State.conversion (s : State) : String := (s.valueOf "CONVFMT").toText ""

/-- Why statements are left before their end. -/
inductive Escape where
  | nextRecord
  | nextFile
  | leave
  | again
  | quit
  | give (v : Value)
  /-- The program fails with a complaint. -/
  | failed (text : String)
  /-- The program is ended by a signal; zero stands for the end of one that would go on for ever. -/
  | killed (signal : Nat)

/-- Something that a program of rules does. -/
abbrev Act (α : Type) := ExceptT Escape (StateM State) α

/-- The name and the value that an argument sets, if it sets one. -/
def setting? (arg : String) : Option (String × String) :=
  let name := arg.toList.takeWhile isWordChar
  match name, arg.toList.drop name.length with
  | c :: _, '=' :: value =>
    if c.isDigit then none else some (String.ofList name, Token.textOf value)
  | _, _ => none

/-- The fields, so many of them. -/
def resized (fields : Array Value) (n : Nat) : Array Value :=
  (fields.extract 0 n) ++ Array.replicate (n - fields.size) (.text "")

namespace Act

/-- Does something and tells how it was left. -/
def attempt {α : Type} (act : Act α) : Act (Except Escape α) := fun s =>
  let (result, s) := act.run s
  (.ok result, s)

/-- Does something again and again, as long as it asks for it. -/
def repeatWhile : Nat → Act Bool → Act Unit
  | 0, _ => throw (.killed 0)
  | rounds + 1, act => do
    if ← act then repeatWhile rounds act

/-- Does the body of a loop.  The result is whether the loop goes on. -/
def round (body : Act Unit) : Act Bool := do
  match ← attempt body with
  | .ok () | .error .again => return true
  | .error .leave => return false
  | .error other => throw other

/-! ## Variables -/

/-- What a variable holds. -/
def cell (name : Name) : Act Cell := do
  let s ← get
  return match name with
    | .shared name => (s.shared[name]?).getD (.unset none)
    | .own place => (s.own[place]?).getD (.unset none)

/-- Makes a variable hold something. -/
def setCell (name : Name) (cell : Cell) : Act Unit :=
  modify fun s => match name with
    | .shared name => { s with shared := s.shared.insert name cell }
    | .own place => { s with own := s.own.modify place fun _ => cell }

/-- The text of a value. -/
def text (v : Value) : Act String := do
  let s ← get
  return v.toText s.conversion

/-- Ends the program with a complaint about what has happened while it ran. -/
def failRunning {α : Type} (problem : String) : Act α := do
  let s ← get
  let shown (name : String) : String := (s.valueOf name).toText "%.6g"
  throw (.failed ("run time error: " ++ problem ++ "\n\tFILENAME=\"" ++ shown "FILENAME" ++
    "\" FNR=" ++ shown "FNR" ++ " NR=" ++ shown "NR"))

/-- The number of a new table. -/
def newTable : Act Nat := do
  let s ← get
  set { s with tables := s.tables.push .empty }
  return s.tables.size

/-- The number of the table that a variable holds. -/
def tableOf (name : Name) : Act Nat := do
  match ← cell name with
  | .table number => return number
  | .unset (some number) =>
    setCell name (.table number)
    return number
  | .unset none =>
    let number ← newTable
    setCell name (.table number)
    return number
  | .value _ => newTable

/-- A table. -/
def table (number : Nat) : Act Table := do return ((← get).tables[number]?).getD .empty

/-- Changes a table. -/
def changeTable (number : Nat) (change : Table → Table) : Act Unit :=
  modify fun s => { s with tables := s.tables.modify number change }

/-- The key that some values are together. -/
def keyOf (values : List Value) : Act Key := do
  match values with
  | [v] => return .ofValue (← get).conversion v
  | values =>
    let separator ← text ((← get).valueOf "SUBSEP")
    return .text (separator.intercalate (← values.mapM text))

/-! ## Records and fields -/

/-- The separator that a value writes. -/
def separatorOf (v : Value) : Act Separator := do
  let s ← text v
  match Separator.ofText s with
  | .ok separator => return separator
  | .error problem => throw (.failed ("line 0: " ++ patternComplaint problem s))

/-- Sets the number of fields, without a change of the fields. -/
def countFields : Act Unit :=
  modify fun s => { s with
    shared := s.shared.insert "NF" (.value (.ofNat s.fields.size)) }

/-- Makes a text the record and cuts it into fields. -/
def setRecord (record : String) : Act Unit := do
  modify fun s => { s with
    record := record
    fields := ((s.fieldSeparator.parts record.toList).map Value.input).toArray }
  countFields

/-- Makes the record what its fields are. -/
def joinFields : Act Unit := do
  let separator ← text ((← get).valueOf "OFS")
  let texts ← (← get).fields.toList.mapM text
  modify fun s => { s with record := separator.intercalate texts }
  countFields

/-- The greatest number of a field. -/
def fieldLimit : Nat := 32767

/-- The number of a field that a value is. -/
def fieldNumber (v : Value) : Act Nat := do
  let n := v.toWhole
  if n < 0 then failRunning ("negative field index $" ++ integerText n)
  else if fieldLimit < n.toNat then
    throw (.failed ("program limit exceeded: maximum number of fields size=" ++
      toString fieldLimit))
  else return n.toNat

/-- The value of a field. -/
def field (n : Nat) : Act Value := do
  let s ← get
  return if n = 0 then .input s.record else (s.fields[n - 1]?).getD (.text "")

/-- Gives a field a value. -/
def setField (n : Nat) (v : Value) : Act Unit := do
  if n = 0 then setRecord (← text v)
  else
    modify fun s => { s with
      fields := (resized s.fields (max n s.fields.size)).modify (n - 1) fun _ => v }
    joinFields

/-- Gives a variable a value.  Some variables say how the input is cut. -/
def assign (name : Name) (v : Value) : Act Unit := do
  match name with
  | .shared "NF" =>
    let n := v.toWhole
    if n < 0 then failRunning "negative value assigned to NF"
    modify fun s => { s with fields := resized s.fields (min n.toNat fieldLimit) }
    joinFields
  | .shared "FS" =>
    let separator ← separatorOf v
    modify fun s => { s with fieldSeparator := separator }
    setCell name (.value v)
  | .shared "RS" =>
    let separator ← separatorOf v
    modify fun s => { s with recordSeparator := separator }
    setCell name (.value v)
  | name => setCell name (.value v)

/-! ## Output and commands -/

/-- Puts out what has been kept back. -/
def flush : Act Unit :=
  modify fun s => { s with
    machine := s.machine.print 1 (String.join s.printed.reverse)
    printed := [] }

/-- Runs a command with some input, if there is one, and keeps what it prints, if asked.  The result
is its status and what it has printed. -/
def runCommand (start : Starter) (command : String) (input? : Option String) (kept : Bool) :
    Act (Nat × String) := do
  let m := (← get).machine
  let inner := match input? with
    | some input => m.feed 0 ⟨input, true⟩
    | none => m
  let inner := if kept then inner.collecting else inner
  match start "/bin/sh" ["-c", command] inner with
  | .error _ => return (127, "")
  | .ok (flow, after) =>
    let (text, after) := if kept then after.takeCollected else ("", after)
    modify fun s => { s with machine := { after with channels := m.channels } }
    match flow with
    | .killed signal =>
      if signal = 0 || after.expired then throw (.killed signal)
      else return (256 + signal, text)
    | _ => return (after.status, text)

/-- Prints a text to a target. -/
def emit (target : Option (Sink × String)) (text : String) : Act Unit := do
  match target with
  | none | some (.replacing, "/dev/stdout") | some (.behind, "/dev/stdout") | some (.replacing, "-")
  | some (.behind, "-") => modify fun s => { s with printed := text :: s.printed }
  | some (sink, name) =>
    let isCommand := decide (sink = .command)
    let known := (← get).outlets.find? fun o => o.name = name && o.isCommand = isCommand
    let outlet ← match known with
      | some outlet => pure outlet
      | none =>
        if isCommand then
          flush
          pure ⟨name, true, none, []⟩
        else match (← get).machine.openOutput name (decide (sink = .behind)) with
        | .ok (channel, m) =>
          modify fun s => { s with machine := m }
          pure ⟨name, false, channel, []⟩
        | .error e =>
          throw (.failed ("cannot open \"" ++ name ++ "\" for output (" ++ plainMessage e ++ ")"))
    let outlet := if isCommand then { outlet with texts := text :: outlet.texts } else outlet
    modify fun s => { s with
      machine := if isCommand then s.machine
        else s.machine.deliver outlet.channel (bytesOfText text)
      outlets := outlet :: s.outlets.filter fun o => !(o.name = name && o.isCommand = isCommand) }

/-- Ends an output.  The result is the status of its command, or zero. -/
def endOutlet (start : Starter) (outlet : Outlet) : Act Nat := do
  if outlet.isCommand then
    let input := String.join outlet.texts.reverse
    return (← runCommand start outlet.name (some input) false).1
  else return 0

/-- Closes inputs and outputs of a name.  The result is the status of the last command among them,
zero if there is none, and minus one if nothing was open. -/
def close (start : Starter) (name : String) : Act Int := do
  let s ← get
  let outlets := s.outlets.filter fun o => o.name = name
  let inlets := s.inlets.filter fun i => i.name = name
  set { s with
    outlets := s.outlets.filter fun o => o.name ≠ name
    inlets := s.inlets.filter fun i => i.name ≠ name }
  let statuses ← outlets.mapM (endOutlet start)
  let all := statuses ++ inlets.map Inlet.status
  return match all.getLast? with
    | some status => status
    | none => -1

/-! ## Input -/

/-- Opens a file as the one that is read. -/
def openMain (path : String) : Act Unit := do
  match (← get).machine.openInput path with
  | .ok (text, m) =>
    modify fun s => { s with
      machine := m
      main := some text.toList
      hasFiles := true
      shared := (s.shared.insert "FILENAME" (.value (.text path))).insert "FNR"
        (.value (.ofNat 0)) }
  | .error .isDirectory => throw (.failed "read error (Is a directory)")
  | .error e => throw (.failed ("cannot open \"" ++ path ++ "\" (" ++ plainMessage e ++ ")"))

/-- Goes on to the next argument that is a file.  The result is whether there is one. -/
def openNext : Nat → Act Bool
  | 0 => return false
  | fuel + 1 => do
    let s ← get
    let number := s.argument
    if (s.valueOf "ARGC").toWhole ≤ (number : Int) then
      if s.hasFiles then return false
      else
        openMain "-"
        return true
    else
      set { s with argument := number + 1 }
      let arguments ← table (← tableOf (.shared "ARGV"))
      let arg ← text (arguments.get (.number number))
      if arg.isEmpty then openNext fuel
      else match setting? arg with
      | some (name, value) =>
        assign (.shared name) (.input value)
        openNext fuel
      | none =>
        openMain arg
        return true

/-- Raises a counter of records. -/
def countRecord (name : String) : Act Unit :=
  modify fun s => { s with
    shared := s.shared.insert name
      (.value (.number ((s.valueOf name).toNumber.add (.ofInt 1)))) }

/-- Takes the next record from the files that are given, if there is one. -/
def nextMain : Nat → Act (Option String)
  | 0 => return none
  | fuel + 1 => do
    let s ← get
    match s.main with
    | none => if ← openNext (fuel + 1) then nextMain fuel else return none
    | some left =>
      match s.recordSeparator.record? left with
      | some (record, left) =>
        set { s with main := some left }
        countRecord "NR"
        countRecord "FNR"
        return some record
      | none =>
        set { s with main := none }
        nextMain fuel

/-- The number of arguments that are looked at for one record. -/
def argumentLimit : Nat := 100000

/-- Takes the next record from what has been opened under a name; nothing if that cannot be opened,
and an empty option if there are no more records. -/
def nextFrom (name : String) (isCommand : Bool) (opened : Act (Option (List Char × Nat))) :
    Act (Option (Option String)) := do
  let same (i : Inlet) : Bool := i.name = name && i.isCommand = isCommand
  let inlet? ← match (← get).inlets.find? same with
    | some inlet => pure (some inlet)
    | none => pure ((← opened).map fun (left, status) => ⟨name, isCommand, left, status⟩)
  match inlet? with
  | none => return none
  | some inlet =>
    let (record, left) := match (← get).recordSeparator.record? inlet.left with
      | some (record, left) => (some record, left)
      | none => (none, [])
    modify fun s => { s with
      inlets := { inlet with left := left } :: s.inlets.filter fun i => !same i }
    return some record

/-- Opens a file to take records from it. -/
def openFile (path : String) : Act (Option (List Char × Nat)) := do
  match (← get).machine.openInput path with
  | .ok (text, m) =>
    modify fun s => { s with machine := m }
    return some (text.toList, 0)
  | .error .isDirectory => throw (.failed "read error (Is a directory)")
  | .error _ => return none

/-- Runs a command to take records from what it prints. -/
def openCommand (start : Starter) (command : String) : Act (Option (List Char × Nat)) := do
  flush
  let (status, text) ← runCommand start command none true
  return some (text.toList, status)

end Act

end SmellRefactor.Shell.Rules
