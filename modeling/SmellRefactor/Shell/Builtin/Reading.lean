import SmellRefactor.Shell.Builtin.Naming

/-!
# Commands that read

Lines of the input are taken apart into variables, and options out of arguments.
-/

namespace SmellRefactor.Shell

/-! ## Lines -/

/-- A line that is taken apart: its characters, and for each of them whether it is protected. -/
abbrev Marked := List (Char × Bool)

/-- How a line is read. -/
structure LineReader where
  /-- Whether a backslash is a character like any other. -/
  raw : Bool
  ending : Char
  /-- How many characters are read at most. -/
  limit : Option Nat

/-- The line with which a text begins, what comes behind it, and whether its end was there. -/
def LineReader.read (r : LineReader) : Nat → Nat → List Char → Marked × List Char × Bool
  | 0, _, text => ([], text, false)
  | fuel + 1, count, text =>
    if r.limit = some count then ([], text, true)
    else match text with
    | [] => ([], [], false)
    | c :: rest =>
      let more (entries : Marked) (rest : List Char) : Marked × List Char × Bool :=
        let (others, behind, ended) := r.read fuel (count + 1) rest
        (entries ++ others, behind, ended)
      if c = r.ending then ([], rest, true)
      else if c = '\\' && !r.raw then
        match rest with
        | [] => ([], [], false)
        | '\n' :: rest => r.read fuel count rest
        | d :: rest => more [(d, true)] rest
      else if c = '\x00' then more [] rest
      else more [(c, false)] rest

/-- How separators cut a line. -/
structure Cutter where
  separators : List Char

namespace Cutter

/-- Whether a character is a blank that separates. -/
def isBlank (k : Cutter) (entry : Char × Bool) : Bool :=
  !entry.2 && k.separators.contains entry.1 && Fields.isBlank entry.1

/-- Whether a character separates. -/
def isSeparator (k : Cutter) (entry : Char × Bool) : Bool :=
  !entry.2 && k.separators.contains entry.1

/-- A line without the blanks at its beginning. -/
def trimStart (k : Cutter) (line : Marked) : Marked := line.dropWhile k.isBlank

/-- A line without the blanks at its end. -/
def trimEnd (k : Cutter) (line : Marked) : Marked := (line.reverse.dropWhile k.isBlank).reverse

/-- The first field of a line, and what stands behind it and its separator. -/
def field (k : Cutter) (line : Marked) : Marked × Marked :=
  let line := k.trimStart line
  let first := line.takeWhile fun entry => !k.isSeparator entry
  let rest := k.trimStart (line.drop first.length)
  match rest with
  | entry :: behind => if k.isSeparator entry then (first, k.trimStart behind) else (first, rest)
  | [] => (first, [])

/-- The rest of a line as one field, from which a separator at its end is taken off if it is the
only one. -/
def last (k : Cutter) (line : Marked) : Marked :=
  let line := k.trimStart line
  match k.field line with
  | (field, []) => field
  | _ => k.trimEnd line

/-- The fields of a line for so many names. -/
def fields (k : Cutter) : Nat → Marked → List Marked
  | 0, _ => []
  | 1, line => [k.last line]
  | count + 1, line =>
    let (first, rest) := k.field line
    first :: k.fields count rest

/-- All fields of a line. -/
def all (k : Cutter) : Nat → Marked → List Marked
  | 0, _ => []
  | fuel + 1, line =>
    if (k.trimStart line).isEmpty then []
    else
      let (first, rest) := k.field line
      first :: k.all fuel rest

end Cutter

/-- The characters of a line. -/
def Marked.text (line : Marked) : String := String.ofList (line.map Prod.fst)

/-- The arguments of `read`. -/
structure ReadRequest where
  raw : Bool
  descriptor : Nat
  ending : Char
  limit : Option Nat
  /-- The list that takes all fields. -/
  list : Option String
  names : List String

/-- Reads the options of `read`; the error is an option that does not exist. -/
def readRequest (dialect : Dialect) : Nat → List String → ReadRequest → Except Char ReadRequest
  | 0, args, q => .ok { q with names := args }
  | _, [], q => .ok q
  | fuel + 1, arg :: rest, q =>
    match arg.toList with
    | ['-', '-'] => .ok { q with names := rest }
    | '-' :: c :: cs =>
      let behind : List String := if cs.isEmpty then rest else String.ofList ('-' :: cs) :: rest
      let value := if cs.isEmpty then rest.head?.getD "" else String.ofList cs
      let others := if cs.isEmpty then rest.tail else rest
      let next := readRequest dialect fuel
      match dialect, c with
      | _, 'r' => next behind { q with raw := true }
      | _, 'p' => next others q
      | .rich, 's' | .rich, 'e' => next behind q
      | .rich, 't' | .rich, 'i' => next others q
      | .rich, 'u' => next others { q with descriptor := value.toNat?.getD 0 }
      | .rich, 'd' => next others { q with ending := value.toList.headD '\x00' }
      | .rich, 'n' | .rich, 'N' => next others { q with limit := value.toNat? }
      | .rich, 'a' => next others { q with list := some value }
      | _, c => .error c
    | _ => .ok { q with names := arg :: rest }

/-- Reads a line of the input into variables. -/
def read : Builtin := fun args m =>
  match readRequest m.dialect (args.length + 40) args ⟨false, 0, '\n', none, none, []⟩ with
  | .error c =>
    badOption "read" c ("read [-ers] [-a array] [-d delim] [-i text] [-n nchars] [-N nchars] " ++
      "[-p prompt] [-t timeout] [-u fd] [name ...]") m
  | .ok q =>
    if q.names.isEmpty && m.dialect = .plain then m.fail "read: arg count" 2
    else
      let text := (((m.source? q.descriptor).map Source.left).getD "").toList
      let reader : LineReader := ⟨q.raw, q.ending, q.limit⟩
      let (line, rest, ended) := reader.read (text.length + 1) 0 text
      let m := m.leave q.descriptor (String.ofList rest)
      let cutter : Cutter := ⟨((m.get? "IFS").getD " \t\n").toList⟩
      let put (name : String) (value : Marked) (m : Machine) :
          Except (Flow × Machine) Machine :=
        if !isName name.toList then .error (m.fail (badName "read" name m)
          (if m.dialect = .plain then 2 else 1))
        else match m.change name value.text with
        | .ok m => .ok m
        | .error text =>
          .error (if m.dialect = .plain then m.fail ("read: " ++ text) 2 else m.fail text 1)
      let status := if ended then 0 else 1
      match q.list, q.names with
      | some name, _ =>
        let values := cutter.all (line.length + 1) line
        let items := (List.range values.length).zip (values.map Marked.text)
        (m.put name (.list items)).done status
      | none, [] => (m.set "REPLY" (Marked.text line)).done status
      | none, names =>
        let values := names.zip (cutter.fields names.length line)
        let step (state : Except (Flow × Machine) Machine) (entry : String × Marked) :
            Except (Flow × Machine) Machine := do put entry.1 entry.2 (← state)
        match values.foldl step (.ok m) with
        | .ok m => m.done status
        | .error stopped => stopped

/-- Reads the lines of the input into a list. -/
def mapfile : Builtin := fun args m =>
  let (letters, rest) := leadingOptions args
  let name := (rest.getLast?).getD "MAPFILE"
  let lines := m.input.splitOn "\n"
  let whole := if lines.getLast? = some "" then lines.dropLast else lines
  let values := if letters.contains 't' then whole
    else whole.mapIdx fun i line => if i + 1 < lines.length then line ++ "\n" else line
  let m := m.drain.put name (.list ((List.range values.length).zip values))
  m.done 0

/-! ## Options -/

/-- What `getopts` finds: the letter or a mark, the value that belongs to it, the next place, how
far it has come within the argument, and what is said about it. -/
structure FoundOption where
  letter : Char
  value : Option String
  next : Nat
  within : Nat
  complaint : Option String

/-- Looks at an option at a place of an argument. -/
def findOption (dialect : Dialect) (shell known : String) (args : List String) (index place : Nat) :
    FoundOption :=
  let arg := (args[index - 1]?.getD "").toList
  let c := (arg[place]?).getD '?'
  let silent := known.startsWith ":"
  let rest := arg.drop (place + 1)
  let (next, within) := if rest.isEmpty then (index + 1, 0) else (index, place + 1)
  let isKnown := c ≠ ':' && known.contains c
  let takesValue := isKnown &&
    ((known.toList.dropWhile (· ≠ c)).drop 1).head? = some ':'
  if !isKnown then
    ⟨'?', if silent then some c.toString else none, next, within,
      if silent then none else some (match dialect with
        | .plain => "Illegal option -" ++ c.toString ++ "\n"
        | .rich => shell ++ ": illegal option -- " ++ c.toString ++ "\n")⟩
  else if !takesValue then
    ⟨c, if dialect = .plain then some "" else none, next, within, none⟩
  else if !rest.isEmpty then ⟨c, some (String.ofList rest), index + 1, 0, none⟩
  else match args[index]? with
  | some value => ⟨c, some value, index + 2, 0, none⟩
  | none =>
    ⟨if silent then ':' else '?', if silent then some c.toString else none, index + 1, 0,
      if silent then none else some (match dialect with
        | .plain => "No arg for -" ++ c.toString ++ " option\n"
        | .rich => shell ++ ": option requires an argument -- " ++ c.toString ++ "\n")⟩

/-- Takes the next option out of the arguments. -/
def getopts : Builtin := fun args m =>
  match args with
  | known :: name :: rest =>
    let args := if rest.isEmpty then m.arguments else rest
    let index := max 1 (((m.get? "OPTIND").bind String.toNat?).getD 1)
    let arg := (args[index - 1]?.getD "").toList
    let put (m : Machine) (letter : Char) (next within status : Nat) : Flow × Machine :=
      let m := { m.set "OPTIND" (toString next) with optionPlace := within }
      if !isName name.toList then
        m.fail (badName "getopts" name m) (if m.dialect = .plain then 2 else 1)
      else match m.change name letter.toString with
      | .ok m => m.done status
      | .error text => m.fail ("getopts: " ++ text) 2
    let place := m.optionPlace
    if place = 0 && (arg.length < 2 || arg.head? ≠ some '-') then put m '?' index 0 1
    else if place = 0 && arg = ['-', '-'] then put m '?' (index + 1) 0 1
    else
      let found := findOption m.dialect m.name known args index (max 1 place)
      let m := match found.complaint with
        | some text => m.complain text
        | none => m
      let m := match found.value with
        | some value => m.set "OPTARG" value
        | none => m.unset "OPTARG"
      put m found.letter found.next found.within 0
  | _ =>
    match m.dialect with
    | .plain => m.fail "getopts: Usage: getopts optstring var [arg...]" 2
    | .rich => (m.complain "getopts: usage: getopts optstring name [arg ...]\n").done 2

end SmellRefactor.Shell
