import SmellRefactor.Shell.Machine

/-!
# What programs have in common

Reading options, opening files, and cutting texts into lines.
-/

namespace SmellRefactor.Shell

/-! ## Options -/

/-- The options that a program knows. -/
structure OptionTable where
  /-- The letters of options without a value. -/
  flags : String
  /-- The letters of options with a value. -/
  valued : String
  /-- The long names of options, with the letters that they stand for. -/
  long : List (String × Char)
  /-- Whether options may also stand behind other arguments. -/
  mixed : Bool
  /-- The status that follows an option that does not exist. -/
  badStatus : Nat

/-- The options that have been given, in their order, and the other arguments. -/
structure Options where
  given : List (Char × String)
  operands : List String

namespace Options

/-- Whether an option has been given. -/
def has (o : Options) (letter : Char) : Bool := o.given.any (·.1 = letter)

/-- The last value of an option. -/
def value? (o : Options) (letter : Char) : Option String :=
  (o.given.reverse.find? (·.1 = letter)).map Prod.snd

/-- All values of an option. -/
def values (o : Options) (letter : Char) : List String :=
  (o.given.filter (·.1 = letter)).map Prod.snd

/-- The last of some options that has been given. -/
def last? (o : Options) (letters : List Char) : Option Char :=
  (o.given.reverse.find? fun entry => letters.contains entry.1).map Prod.fst

/-- The options with one more before them. -/
def add (letter : Char) (value : String) (o : Options) : Options :=
  { o with given := (letter, value) :: o.given }

/-- The options with one more operand before the others. -/
def addOperand (arg : String) (o : Options) : Options :=
  { o with operands := arg :: o.operands }

/-- The operands, or `-` if there is none, which stands for the input. -/
def files (o : Options) : List String := if o.operands.isEmpty then ["-"] else o.operands

end Options

namespace OptionTable

/-- The letter of a long name, which may be cut short. -/
def letterOf (t : OptionTable) (name : String) : Except String (String × Char) :=
  match t.long.lookup name with
  | some letter => .ok (name, letter)
  | none =>
    match t.long.filter fun entry => entry.1.startsWith name with
    | [entry] => .ok entry
    | [] => .error ("unrecognized option '--" ++ name ++ "'")
    | entries =>
      .error ("option '--" ++ name ++ "' is ambiguous; possibilities:" ++
        String.join (entries.map fun entry => " '--" ++ entry.1 ++ "'"))

/-- Reads the options of a program. -/
def read (t : OptionTable) : Nat → List String → Except String Options
  | 0, args => .ok ⟨[], args⟩
  | _, [] => .ok ⟨[], []⟩
  | fuel + 1, arg :: rest =>
    let next (rest : List String) : Except String Options := t.read fuel rest
    match arg.toList with
    | ['-', '-'] => .ok ⟨[], rest⟩
    | '-' :: '-' :: text => do
      let name := String.ofList (text.takeWhile (· ≠ '='))
      let value? := match text.dropWhile (· ≠ '=') with
        | [] => none
        | _ :: value => some (String.ofList value)
      let (full, letter) ← t.letterOf name
      if t.valued.contains letter then
        match value?, rest with
        | some value, _ => return (← next rest).add letter value
        | none, value :: rest => return (← next rest).add letter value
        | none, [] => throw ("option '--" ++ full ++ "' requires an argument")
      else if value?.isSome && !t.flags.contains '=' then
        throw ("option '--" ++ full ++ "' doesn't allow an argument")
      else return (← next rest).add letter (value?.getD "")
    | '-' :: letter :: letters => do
      if t.flags.contains letter && letter ≠ '=' then
        let rest := if letters.isEmpty then rest else String.ofList ('-' :: letters) :: rest
        return (← next rest).add letter ""
      else if t.valued.contains letter then
        match letters, rest with
        | [], value :: rest => return (← next rest).add letter value
        | [], [] => throw ("option requires an argument -- '" ++ letter.toString ++ "'")
        | value, rest => return (← next rest).add letter (String.ofList value)
      else throw ("invalid option -- '" ++ letter.toString ++ "'")
    | _ =>
      if t.mixed then do return (← next rest).addOperand arg else .ok ⟨[], arg :: rest⟩

/-- Reads all options of a program. -/
def readAll (t : OptionTable) (args : List String) : Except String Options :=
  t.read (2 * (args.foldl (fun n arg => n + arg.length + 1) 1)) args

end OptionTable

/-- Runs a program with its options, if they can be read. -/
def withTable (t : OptionTable) (run : Options → Machine → Flow × Machine) : Builtin :=
  fun args m =>
    if args.contains "--help" || args.contains "--version" then m.done 0
    else match t.readAll args with
    | .ok options => run options m
    | .error text => m.misuseWith t.badStatus text

/-! ## Files -/

/-- A text between apostrophes, as in messages. -/
def named (text : String) : String :=
  if needsQuotes text then "'" ++ text.replace "'" "'\\''" ++ "'" else "'" ++ text ++ "'"
where
  /-- Whether an apostrophe is in a text. -/
  needsQuotes (text : String) : Bool := text.contains '\''

/-- A name in a message, with quotes only where it holds characters with a meaning. -/
def shownName (name : String) : String :=
  if name.isEmpty || name.any fun c => " \t\n'\"$&|;<>()*?[\\!\x60".toList.contains c then named name
  else name

/-- The lines of a text, without their ends. -/
def linesOf (text : String) : List String :=
  let parts := text.splitOn "\n"
  if parts.getLast? = some "" then parts.dropLast else parts

/-- The lines of a text, each with its end, if it has one. -/
def fullLines (text : String) : List String :=
  let lines := linesOf text
  let ended := text.endsWith "\n"
  lines.mapIdx fun i line => if i + 1 < lines.length || ended then line ++ "\n" else line

/-- The text of lines, each with an end. -/
def unlines (lines : List String) : String := String.join (lines.map (· ++ "\n"))

/-- Reads files one after another, with a complaint about each one that cannot be read.  The status
tells whether there was one. -/
def readFiles (complaint : String → SystemError → String) (use : String → String → Machine → Machine)
    (failure : Nat) (paths : List String) (m : Machine) : Nat × Machine :=
  paths.foldl
    (fun (status, m) path =>
      match m.openInput path with
      | .ok (text, m) => (status, use path text m)
      | .error e => (failure, m.warn (complaint path e))) (0, m)

/-- The usual complaint about a file. -/
def aboutFile (path : String) (e : SystemError) : String := shownName path ++ ": " ++ plainMessage e

/-- The texts of files as one. -/
def readTogether (complaint : String → SystemError → String) (failure : Nat) (paths : List String)
    (m : Machine) : Nat × String × Machine :=
  paths.foldl
    (fun (status, text, m) path =>
      match m.openInput path with
      | .ok (more, m) => (status, text ++ more, m)
      | .error e => (failure, text, m.warn (complaint path e))) (0, "", m)

/-- Puts a text into a file, in place of what it held. -/
def overwrite (path text : String) (m : Machine) : Except SystemError Machine :=
  (m.openOutput path false).map fun (channel, m) => m.deliver channel (bytesOfText text)

/-- The number of a text of digits, with a suffix that multiplies it. -/
def sizeOf? (text : String) : Option Nat :=
  let digits := text.toList.takeWhile Char.isDigit
  let factor : Option Nat := match String.ofList (text.toList.drop digits.length) with
    | "" => some 1
    | "b" => some 512
    | "kB" => some 1000
    | "k" | "K" | "KiB" => some 1024
    | "MB" => some 1000000
    | "M" | "MiB" => some 1048576
    | "GB" => some 1000000000
    | "G" | "GiB" => some 1073741824
    | _ => none
  if digits.isEmpty then none else factor.map (Decimal.valueOf 10 digits * ·)

end SmellRefactor.Shell
