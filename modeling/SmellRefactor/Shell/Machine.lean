import SmellRefactor.FileTree.Basic
import SmellRefactor.Shell.Arithmetic
import SmellRefactor.Shell.Script

/-!
# The state of a shell

What a running script has: the files, its variables and arguments, the status of the last command,
and where its inputs and outputs lead.
-/

namespace SmellRefactor.Shell

/-- Where a descriptor leads. -/
inductive Channel where
  | output
  | complaint
  /-- What is collected under a number. -/
  | collector (number : Nat)
  | file (location : Location)
  /-- Bytes to read, under the number by which the state of the shell knows them. -/
  | source (number : Nat)
deriving DecidableEq, Repr

/-- Bytes that can be read. -/
structure Source where
  /-- What has not been read yet. -/
  left : String
  /-- Whether a program gives back what it has read too much. -/
  seekable : Bool
deriving Repr, Inhabited

/-- What a variable holds. -/
inductive Value where
  | text (text : String)
  /-- Texts under numbers, in ascending order. -/
  | list (items : List (Nat × String))
  /-- Texts under keys. -/
  | table (entries : List (String × String))
deriving Repr, Inhabited

namespace Value

/-- What a value is where one text is asked for. -/
def text? : Value → Option String
  | text s => some s
  | list items => items.lookup 0
  | table entries => entries.lookup "0"

/-- All texts of a value. -/
def texts : Value → List String
  | text s => [s]
  | list items => items.map Prod.snd
  | table entries => entries.map Prod.snd

/-- The keys of a value. -/
def keys : Value → List String
  | text _ => ["0"]
  | list items => items.map fun item => toString item.1
  | table entries => entries.map Prod.fst

/-- Puts a text under a number. -/
def insertAt (place : Nat) (s : String) : List (Nat × String) → List (Nat × String)
  | [] => [(place, s)]
  | (n, t) :: rest =>
    if n = place then (place, s) :: rest
    else if place < n then (place, s) :: (n, t) :: rest
    else (n, t) :: insertAt place s rest

/-- Puts a text under a key. -/
def insertKey (key s : String) : List (String × String) → List (String × String)
  | [] => [(key, s)]
  | (k, t) :: rest => if k = key then (key, s) :: rest else (k, t) :: insertKey key s rest

end Value

/-- The state of a shell. -/
structure Machine where
  tree : FileTree
  dialect : Dialect
  /-- The number of the process. -/
  number : Nat
  bindings : List (String × Value)
  /-- The variables that programs started by the shell also have. -/
  exported : List String
  /-- The variables that cannot be changed. -/
  sealed : List String
  functions : List (String × Command)
  /-- The names that stand for other texts where a command may begin. -/
  aliases : List (String × String)
  /-- What variables held that a function has made its own, while a function runs. -/
  locals : Option (List (String × Option Value))
  /-- Scripts to run when a signal arrives, or at the end under the number zero. -/
  traps : List (Nat × String)
  /-- The letters of the options that are switched on. -/
  options : List Char
  /-- The options without a letter that are switched on. -/
  settings : List String
  /-- The permissions that new files do not get. -/
  mask : Mode
  /-- The number of the loops around the command that runs. -/
  loops : Nat
  /-- Whether a command is run only to learn whether it succeeds. -/
  asking : Bool
  /-- The status of the last command that was run beside the others. -/
  beside : Option Nat
  /-- How many shells deep the output of commands is collected. -/
  depth : Nat
  /-- The name under which the script runs. -/
  name : String
  /-- From where commands come: in the plain language the command that reads them, in the rich one
  what complaints begin with. -/
  context : String
  /-- What complaints in functions begin with, in the rich language. -/
  functionContext : String
  arguments : List String
  /-- The line of the command that runs. -/
  line : Nat
  status : Nat
  /-- The statuses of the commands of the last pipeline. -/
  statuses : List Nat
  /-- How far the reading of options has come within one argument. -/
  optionPlace : Nat
  sources : List Source
  /-- What has been written to be used by the shell itself. -/
  collected : List ByteArray
  output : ByteArray
  complaint : ByteArray
  /-- Where the descriptors lead that are open. -/
  channels : List (Nat × Channel)
  /-- Why something could not be written, since that was last asked. -/
  refused : Option SystemError
  /-- How long programs have slept, in thousandths of a second. -/
  clock : Nat
  /-- When everything that runs is ended. -/
  deadline : Option Nat

/-- What comes after a command. -/
inductive Flow where
  | next
  /-- The script ends with a status. -/
  | exit (status : Nat)
  /-- The function ends with a status, or the script if no function runs. -/
  | returned (status : Nat)
  /-- The script ends by a signal; zero stands for the end of one that would go on for ever. -/
  | killed (signal : Nat)
  /-- This many loops end. -/
  | leave (loops : Nat)
  /-- This many loops but one end, and the last one goes on with its next round. -/
  | again (loops : Nat)
deriving DecidableEq, Repr

/-- The wording of an error without its number. -/
def plainMessage (e : SystemError) : String :=
  String.ofList ((e.message.splitOn " (os error").head?.getD "").toList

namespace Machine

/-- The number of the first process. -/
def firstNumber : Nat := 4711

/-- The variables that every program has. -/
def environment : List (String × String) :=
  [("PATH", "/usr/local/sbin:/usr/local/bin:/usr/sbin:/usr/bin:/sbin:/bin"), ("HOME", "/root")]

/-- A shell at its start. -/
def start (tree : FileTree) (name : String) (arguments : List String) : Machine where
  tree := tree
  dialect := .plain
  number := firstNumber
  bindings := environment.map fun b => (b.1, .text b.2)
  exported := environment.map Prod.fst
  sealed := []
  functions := []
  aliases := []
  locals := none
  traps := []
  options := []
  settings := []
  mask := 0o022
  loops := 0
  asking := false
  beside := none
  depth := 0
  name := name
  context := ""
  functionContext := name
  arguments := arguments
  line := 1
  status := 0
  statuses := [0]
  optionPlace := 0
  sources := [⟨"", false⟩]
  collected := []
  output := .empty
  complaint := .empty
  channels := [(0, .source 0), (1, .output), (2, .complaint)]
  refused := none
  clock := 0
  deadline := none

/-- Whether the time has come at which everything that runs is ended. -/
def expired (m : Machine) : Bool := m.deadline.any (· ≤ m.clock)

/-- Where a descriptor leads. -/
def channel? (m : Machine) (descriptor : Nat) : Option Channel := m.channels.lookup descriptor

/-- The channels without a descriptor. -/
def close (m : Machine) (descriptor : Nat) : Machine :=
  { m with channels := m.channels.filter (·.1 ≠ descriptor) }

/-- Makes a descriptor lead elsewhere. -/
def direct (m : Machine) (descriptor : Nat) (channel : Channel) : Machine :=
  { m.close descriptor with channels := (descriptor, channel) :: (m.close descriptor).channels }

/-- Makes a descriptor lead to bytes. -/
def feed (m : Machine) (descriptor : Nat) (source : Source) : Machine :=
  { m.direct descriptor (.source m.sources.length) with sources := m.sources ++ [source] }

/-- What can be read through a descriptor. -/
def source? (m : Machine) (descriptor : Nat) : Option Source :=
  match m.channel? descriptor with
  | some (.source n) => m.sources[n]?
  | some (.file location) => some ⟨textOfBytes (m.tree.contentAt location), true⟩
  | _ => none

/-- The machine after something has been read through a descriptor. -/
def leave (m : Machine) (descriptor : Nat) (left : String) : Machine :=
  match m.channel? descriptor with
  | some (.source n) => { m with sources := m.sources.modify n fun s => { s with left := left } }
  | _ => m

/-- What is left of the input. -/
def input (m : Machine) : String := ((m.source? 0).map Source.left).getD ""

/-- The machine after all of the input has been read. -/
def drain (m : Machine) : Machine := m.leave 0 ""

/-- The machine after its input has been read up to some rest.  A source that takes nothing back is
read to its end. -/
def readUpTo (m : Machine) (left : String) : Machine :=
  match m.source? 0 with
  | some s => if s.seekable then m.leave 0 left else m.drain
  | none => m

/-- Writes bytes where a channel leads. -/
def deliver (m : Machine) (channel : Option Channel) (bytes : ByteArray) : Machine :=
  match channel with
  | some .output => { m with output := m.output ++ bytes }
  | some .complaint => { m with complaint := m.complaint ++ bytes }
  | some (.collector n) => { m with collected := m.collected.modify n (· ++ bytes) }
  | some (.file location) =>
    match m.tree.append location bytes with
    | (.ok (), tree) => { m with tree := tree }
    | (.error e, tree) => { m with tree := tree, refused := some e }
  | _ => if bytes.isEmpty then m else { m with refused := some .badDescriptor }

/-- Writes bytes to a descriptor. -/
def write (m : Machine) (descriptor : Nat) (bytes : ByteArray) : Machine :=
  m.deliver (m.channel? descriptor) bytes

/-- Writes a text to a descriptor. -/
def print (m : Machine) (descriptor : Nat) (text : String) : Machine :=
  m.write descriptor (bytesOfText text)

/-- Writes a complaint.  That it may not be written is of no account. -/
def complain (m : Machine) (text : String) : Machine :=
  { m.print 2 text with refused := m.refused }

/-- The machine for commands whose output is wanted by something else than the outputs. -/
def collecting (m : Machine) : Machine :=
  { m with collected := m.collected ++ [ByteArray.empty] }.direct 1 (.collector m.collected.length)

/-- What has been collected last, and the machine without it. -/
def takeCollected (m : Machine) : String × Machine :=
  (textOfBytes (m.collected.getLast?.getD .empty), { m with collected := m.collected.dropLast })

/-- Ends a command with a status. -/
def done (m : Machine) (status : Nat) : Flow × Machine := (.next, { m with status := status })

/-- What stands before a complaint of the shell. -/
def label (m : Machine) : String :=
  match m.dialect with
  | .plain => m.name ++ ": " ++ toString m.line ++ ": "
  | .rich => m.context ++ ": line " ++ toString m.line ++ ": "

/-- Ends a command with a status and a complaint of the command itself. -/
def fail (m : Machine) (text : String) (status : Nat) : Flow × Machine :=
  (m.complain (m.label ++ text ++ "\n")).done status

/-- Ends the whole script with a status and a complaint of a command. -/
def refuse (m : Machine) (text : String) (status : Nat) : Flow × Machine :=
  (.exit status, (m.fail text status).2)

/-- A complaint about what no command has to answer for, with what has read the commands. -/
def placed (m : Machine) (text : String) : String :=
  match m.dialect with
  | .plain => if m.context.isEmpty then text else m.context ++ ": " ++ text
  | .rich => text

/-- Ends the whole script in the plain language, and a command in the rich one, with a complaint of
the command. -/
def failOrRefuse (m : Machine) (text : String) (plainStatus richStatus : Nat) : Flow × Machine :=
  match m.dialect with
  | .plain => m.refuse text plainStatus
  | .rich => m.fail text richStatus

/-- Ends a program with a status and a complaint. -/
def report (m : Machine) (text : String) (status : Nat) : Flow × Machine :=
  (m.complain (m.name ++ ": " ++ text ++ "\n")).done status

/-- A program complains. -/
def warn (m : Machine) (text : String) : Machine := m.complain (m.name ++ ": " ++ text ++ "\n")

/-- Ends a program that has been called with the wrong arguments, and points to its help. -/
def misuseWith (m : Machine) (status : Nat) (text : String) : Flow × Machine :=
  ((m.warn text).complain ("Try '" ++ m.name ++ " --help' for more information.\n")).done status

/-- Ends a program that has been called with the wrong arguments, as most programs do. -/
def misuse (m : Machine) (text : String) : Flow × Machine := m.misuseWith 1 text

/-- Whether an option is switched on. -/
def has (m : Machine) (option : Char) : Bool := m.options.contains option

/-- The value of a variable. -/
def value? (m : Machine) (name : String) : Option Value := m.bindings.lookup name

/-- The text of a variable. -/
def get? (m : Machine) (name : String) : Option String := (m.value? name).bind Value.text?

/-- Gives a variable a value. -/
def put (m : Machine) (name : String) (value : Value) : Machine :=
  let exported := if m.has 'a' && !m.exported.contains name then name :: m.exported else m.exported
  { m with
    bindings := (name, value) :: m.bindings.filter (·.1 ≠ name)
    exported := exported
    optionPlace := if name = "OPTIND" then 0 else m.optionPlace }

/-- Sets a variable. -/
def set (m : Machine) (name text : String) : Machine :=
  match m.value? name with
  | some (.list items) => m.put name (.list (Value.insertAt 0 text items))
  | some (.table entries) => m.put name (.table (Value.insertKey "0" text entries))
  | _ => m.put name (.text text)

/-- What is said about a variable that cannot be changed. -/
def sealedComplaint (m : Machine) (name : String) : String :=
  match m.dialect with
  | .plain => name ++ ": is read only"
  | .rich => name ++ ": readonly variable"

/-- Sets a variable, unless it cannot be changed. -/
def change (m : Machine) (name text : String) : Except String Machine :=
  if m.sealed.contains name then .error (m.sealedComplaint name) else .ok (m.set name text)

/-- Gives a variable a value, unless it cannot be changed. -/
def replace (m : Machine) (name : String) (value : Value) : Except String Machine :=
  if m.sealed.contains name then .error (m.sealedComplaint name) else .ok (m.put name value)

/-- The place in a list of values that a number means, counted from the end if it is negative. -/
def placeIn (items : List (Nat × String)) (index : Int) : Nat :=
  if 0 ≤ index then index.toNat
  else ((((items.getLast?.map fun item => item.1 + 1).getD 0 : Nat) : Int) + index).toNat

/-- The text at a place in a list of values. -/
def at? (m : Machine) (name : String) (index : Int) : Option String :=
  match m.value? name with
  | some (.list items) => items.lookup (placeIn items index)
  | some (.table entries) => entries.lookup (toString index)
  | some (.text s) => if index = 0 then some s else none
  | none => none

/-- Sets the text at a place in a list of values, unless the variable cannot be changed. -/
def changeAt (m : Machine) (name : String) (index : Int) (text : String) :
    Except String Machine :=
  match m.value? name with
  | some (.table entries) => m.replace name (.table (Value.insertKey (toString index) text entries))
  | some (.list items) =>
    m.replace name (.list (Value.insertAt (placeIn items index) text items))
  | some (.text s) => m.replace name (.list (Value.insertAt index.toNat text [(0, s)]))
  | none => m.replace name (.list [(index.toNat, text)])

/-- How the computation of an expression sees the variables. -/
def view (m : Machine) (whole : String) : Arithmetic.View where
  dialect := m.dialect
  text := fun name index => (match index with
    | none => m.get? name
    | some n => m.at? name n).getD ""
  whole := whole

/-- The value of an expression, and the machine after what it has set. -/
def calculate (m : Machine) (expression : List Char) : Except String (Int × Machine) := do
  let (n, settings) ← (m.view (String.ofList expression)).evaluate expression
  let m ← settings.foldrM
    (fun (name, index, value) m =>
      match index with
      | none => m.change name (Decimal.integerText value)
      | some index => m.changeAt name index (Decimal.integerText value)) m
  return (n, m)

/-- Forgets a variable. -/
def unset (m : Machine) (name : String) : Machine :=
  { m with
    bindings := m.bindings.filter (·.1 ≠ name)
    exported := m.exported.filter (· ≠ name) }

/-- The path of the current directory. -/
def directory (m : Machine) : String := encoded m.tree.here.text

/-- The arguments as one text, joined by the first separator. -/
def joinedArguments (m : Machine) : String :=
  let separator := match m.get? "IFS" with
    | none => " "
    | some separators => String.ofList (separators.toList.take 1)
  separator.intercalate m.arguments

/-- The value of a parameter, which is a variable, an argument or a value of the shell itself. -/
def parameter? (m : Machine) (name : List Char) : Option String :=
  match name with
  | ['#'] => some (toString m.arguments.length)
  | ['?'] => some (toString m.status)
  | ['$'] => some (toString m.number)
  | ['!'] => m.beside.map fun _ => toString (m.number + 1)
  | ['-'] =>
    let order := match m.dialect with
      | .plain => "efIimnsxvVECabu"
      | .rich => "abefhkmnptuvxBCEHPTcs"
    let implied := if m.dialect = .rich then ['h', 'B', 'c'] else []
    some (String.ofList (order.toList.filter fun c => m.has c || implied.contains c))
  | ['@'] | ['*'] => if m.arguments.isEmpty then none else some m.joinedArguments
  | ['0'] => some m.name
  | name =>
    let name := String.ofList name
    if !name.isEmpty && name.toList.all Char.isDigit then
      m.arguments[Decimal.valueOf 10 name.toList - 1]?
    else match m.get? name with
    | some value => some value
    | none =>
      if name = "PWD" then some m.directory
      else if m.dialect = .plain then
        if name = "OPTIND" then some "1" else if name = "PPID" then some "4710"
        else if name = "PS4" then some "+ " else none
      else if name = "LINENO" then some (toString m.line)
      else if name = "UID" || name = "EUID" then some "0"
      else if name = "OPTIND" then some "1"
      else if name = "PIPESTATUS" then m.statuses.head?.map toString
      else none

/-- How commands are read. -/
def grammar (m : Machine) : Grammar :=
  ⟨m.dialect,
    if m.dialect = .plain || m.settings.contains "expand_aliases" then m.aliases else []⟩

/-- Where a program writes that opens a file for writing; the paths of the outputs lead where the
descriptors do. -/
def openOutput (m : Machine) (path : String) (appending : Bool) :
    Except SystemError (Option Channel × Machine) :=
  match [("/dev/stdout", 1), ("/dev/stderr", 2), ("/dev/fd/1", 1), ("/dev/fd/2", 2)].lookup path
  with
  | some descriptor => .ok (m.channel? descriptor, m)
  | none =>
    let mode : Mode := 0o666 &&& (0o777 ^^^ m.mask)
    let opened := if appending then m.tree.openFile mode (pathOf path)
      else m.tree.createAs mode (pathOf path)
    opened.map fun (location, tree) => (some (.file location), { m with tree := tree })

/-- What stands where a path leads. -/
def standing (m : Machine) (path : String) : Option (Location × FileNode) :=
  (m.tree.lookup (pathOf path)).toOption

/-- What a program reads that opens a file, where `-` stands for the input. -/
def openInput (m : Machine) (path : String) : Except SystemError (String × Machine) :=
  if ["/dev/stdin", "/dev/fd/0", "-"].contains path then
    match m.channel? 0 with
    | none => .error .badDescriptor
    | some (.file location) =>
      match m.tree.node? location with
      | some .directory => .error .isDirectory
      | _ => .ok (m.input, m.drain)
    | some _ => .ok (m.input, m.drain)
  else (m.tree.read (pathOf path)).map fun bytes => (textOfBytes bytes, m)

end Machine

/-- A command: its arguments, and the state before it. -/
abbrev Builtin := List String → Machine → Flow × Machine

/-- How a program is started by its name with arguments. -/
abbrev Starter := String → List String → Machine → Except SystemError (Flow × Machine)

/-- A program, given how it starts others. -/
abbrev Utility := Starter → Builtin

end SmellRefactor.Shell
