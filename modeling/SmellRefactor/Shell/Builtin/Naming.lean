import SmellRefactor.Shell.Machine
import SmellRefactor.Shell.Parameter

/-!
# Commands that name things

Variables are set, sealed, given to programs and forgotten, and names are made to stand for other
texts.
-/

namespace SmellRefactor.Shell

/-- The name that an argument sets, and its value if it has one. -/
def setting (arg : String) : String × Option String :=
  let name := String.ofList (arg.toList.takeWhile (· ≠ '='))
  match arg.toList.dropWhile (· ≠ '=') with
  | [] => (name, none)
  | _ :: value => (name, some (String.ofList value))

/-- A text between apostrophes, in which apostrophes stand between other quotes. -/
def quotedPlainly (text : String) : String := "'" ++ text.replace "'" "'\"'\"'" ++ "'"

/-- A text between double quotes. -/
def quotedDoubly (text : String) : String :=
  if needsEscapes text then inEscapes text
  else "\"" ++ String.ofList (text.toList.flatMap fun c =>
    if ['"', '$', '\x60', '\\'].contains c then ['\\', c] else [c]) ++ "\""

/-- What is said about an option that a command does not have; the rich shell tells the usage. -/
def badOption (command : String) (option : Char) (usage : String) (m : Machine) : Flow × Machine :=
  match m.dialect with
  | .plain => m.fail (command ++ ": Illegal option -" ++ option.toString) 2
  | .rich =>
    let m := (m.fail (command ++ ": -" ++ option.toString ++ ": invalid option") 2).2
    (m.complain (command ++ ": usage: " ++ usage ++ "\n")).done 2

/-- The letters of the options at the beginning of arguments, and the other arguments. -/
def leadingOptions : List String → List Char × List String
  | [] => ([], [])
  | "--" :: rest => ([], rest)
  | arg :: rest =>
    match arg.toList with
    | '-' :: c :: cs =>
      let (letters, rest) := leadingOptions rest
      (c :: cs ++ letters, rest)
    | _ => ([], arg :: rest)

/-- Runs a command with the letters of its options, unless one of them is none of the command. -/
def withOptions (command : String) (known : List Char) (usage : String) (special : Bool)
    (run : List Char → Builtin) : Builtin := fun args m =>
  let (letters, rest) := leadingOptions args
  match letters.find? fun c => !known.contains c with
  | some c =>
    let (flow, m') := badOption command c usage m
    (if special && m.dialect = .plain then .exit 2 else flow, m')
  | none => run letters rest m

/-- What is said about a text that is no name. -/
def badName (command arg : String) (m : Machine) : String :=
  match m.dialect with
  | .plain => command ++ ": " ++ (setting arg).1 ++ ": bad variable name"
  | .rich => command ++ ": \x60" ++ arg ++ "': not a valid identifier"

/-- Does something for each argument; a command that ends the script ends the others, too.  The
status tells whether something has failed. -/
def forEach (act : String → Machine → Except (Flow × Machine) Machine) :
    List String → Machine → Flow × Machine
  | [], m => (.next, m)
  | arg :: args, m =>
    match act arg m with
    | .ok m => forEach act args m
    | .error (.next, m) =>
      let (flow, m) := forEach act args m
      (flow, if m.status = 0 then { m with status := 1 } else m)
    | .error stopped => stopped

/-- Sets what an argument sets, if it does, and marks the name. -/
def declareName (command : String) (mark : String → Machine → Machine) (arg : String)
    (m : Machine) : Except (Flow × Machine) Machine :=
  let (name, value?) := setting arg
  if !isName name.toList then .error (m.failOrRefuse (badName command arg m) 2 1)
  else match value? with
  | none => .ok (mark name m)
  | some value =>
    match m.change name value with
    | .ok m => .ok (mark name m)
    | .error text =>
      let text := if m.dialect = .plain then command ++ ": " ++ text else text
      .error (m.failOrRefuse text 2 1)

/-- The names with their values, in the order of the names. -/
def listing (names : List String) (show_ : String → String) : String :=
  String.join ((names.mergeSort fun a b => decide (a ≤ b)).map fun name => show_ name ++ "\n")

/-- Shows some variables as commands that set them. -/
def showMarked (command letter : String) (names : List String) (m : Machine) : Machine :=
  m.print 1 (listing names.eraseDups fun name =>
    match m.dialect with
    | .plain =>
      command ++ " " ++ name ++ ((m.get? name).map fun v => "=" ++ quotedPlainly v).getD ""
    | .rich =>
      "declare -" ++ letter ++ " " ++ name ++
        ((m.get? name).map fun v => "=" ++ quotedDoubly v).getD "")

/-- Sets variables, for this shell and the programs that it starts. -/
def exportNames : Builtin :=
  withOptions "export" ['p', 'n', 'f'] "export [-fn] [name[=value] ...] or export -p" true
    fun letters args m =>
      if letters.contains 'p' || args.isEmpty then
        (showMarked "export" "x" m.exported m).done 0
      else
        let mark (name : String) (m : Machine) : Machine :=
          let others := m.exported.filter (· ≠ name)
          { m with exported := if letters.contains 'n' then others else name :: others }
        forEach (declareName "export" mark) args { m with status := 0 }

/-- Sets variables that cannot be changed from then on. -/
def sealNames : Builtin :=
  withOptions "readonly" ['p', 'a', 'A', 'f'] "readonly [-aAf] [name[=value] ...] or readonly -p"
    true fun letters args m =>
      if letters.contains 'p' || args.isEmpty then
        (showMarked "readonly" "r" m.sealed m).done 0
      else
        let mark (name : String) (m : Machine) : Machine := { m with sealed := name :: m.sealed }
        forEach (declareName "readonly" mark) args { m with status := 0 }

/-- Remembers what a variable holds until the function ends that runs. -/
def Machine.remember (m : Machine) (name : String) : Machine :=
  { m with locals := m.locals.map fun saved =>
      if (saved.lookup name).isSome then saved else (name, m.value? name) :: saved }

/-- Gives the function that runs variables of its own. -/
def localNames : Builtin := fun args m =>
  match m.locals with
  | none =>
    let text := match m.dialect with
      | .plain => "local: not in a function"
      | .rich => "local: can only be used in a function"
    m.failOrRefuse text 2 1
  | some _ =>
    let one (arg : String) (m : Machine) : Except (Flow × Machine) Machine :=
      let (name, value?) := setting arg
      let m := if isName name.toList then m.remember name else m
      let m := if m.dialect = .rich && value?.isNone then m.unset name else m
      declareName "local" (fun _ m => m) arg m
    forEach one (args.filter fun arg => !arg.startsWith "-") { m with status := 0 }

/-- Forgets variables or functions. -/
def unset : Builtin :=
  withOptions "unset" ['f', 'v', 'n'] "unset [-f] [-v] [-n] [name ...]" true fun letters args m =>
    let forgetFunction (name : String) (m : Machine) : Machine :=
      { m with functions := m.functions.filter (·.1 ≠ name) }
    let one (arg : String) (m : Machine) : Except (Flow × Machine) Machine :=
      let name := arg.toList.takeWhile isNameChar
      let label := String.ofList name
      if letters.contains 'f' then .ok (forgetFunction arg m)
      else if m.sealed.contains label then
        .error (m.failOrRefuse ("unset: " ++ label ++ match m.dialect with
          | .plain => ": is read only"
          | .rich => ": cannot unset: readonly variable") 2 1)
      else match m.dialect, arg.toList.drop name.length with
      | _, [] =>
        if isName name then
          if m.dialect = .rich && (m.value? label).isNone && !letters.contains 'v' then
            .ok (forgetFunction arg m)
          else .ok (m.unset label)
        else .error (m.failOrRefuse (badName "unset" arg m) 2 1)
      | .rich, '[' :: place =>
        let place := String.ofList (place.takeWhile (· ≠ ']'))
        match m.value? label with
        | some (.list items) =>
          let n := Machine.placeIn items (Arithmetic.numberOf place)
          .ok (m.put label (.list (items.filter (·.1 ≠ n))))
        | some (.table entries) => .ok (m.put label (.table (entries.filter (·.1 ≠ place))))
        | _ => .ok m
      | _, _ => .error (m.failOrRefuse (badName "unset" arg m) 2 1)
    forEach one args { m with status := 0 }

/-- Declares variables of some kind. -/
def declareNames : Builtin := fun args m =>
  let (letters, rest) := leadingOptions args
  let has (c : Char) : Bool := letters.contains c
  let one (arg : String) (m : Machine) : Except (Flow × Machine) Machine :=
    let (name, value?) := setting arg
    if has 'p' then
      match m.value? name with
      | none => .error (m.fail ("declare: " ++ name ++ ": not found") 1)
      | some value =>
        let mark := match value with
          | .text _ => if m.exported.contains name then "x"
            else if m.sealed.contains name then "r" else "-"
          | .list _ => "a"
          | .table _ => "A"
        .ok (m.print 1 ("declare -" ++ mark ++ " " ++ name ++ "=" ++
          quotedDoubly (value.text?.getD "") ++ "\n"))
    else
      let m := if !has 'g' && m.locals.isSome then m.remember name else m
      let fresh := match m.value? name with
        | some _ => m
        | none =>
          if has 'A' then m.put name (.table []) else if has 'a' then m.put name (.list []) else m
      let value? := value?.map fun value =>
        if has 'i' then match m.calculate value.toList with
          | .ok (n, _) => toString n
          | .error _ => "0"
        else if has 'u' then value.toUpper
        else if has 'l' then value.toLower
        else value
      let arg := match value? with
        | some value => name ++ "=" ++ value
        | none => arg
      declareName "declare" (fun name m =>
        { m with
          sealed := if has 'r' then name :: m.sealed else m.sealed
          exported := if has 'x' then name :: m.exported else m.exported }) arg fresh
  forEach one rest { m with status := 0 }

/-- Makes names stand for other texts, or tells for what they stand. -/
def setAliases : Builtin := fun args m =>
  let shown (name text : String) : String := match m.dialect with
    | .plain => name ++ "=" ++ quotedPlainly text ++ "\n"
    | .rich => "alias " ++ name ++ "=" ++ quotedPlainly text ++ "\n"
  let one (arg : String) (m : Machine) : Except (Flow × Machine) Machine :=
    match setting arg with
    | (name, some text) =>
      .ok { m with aliases := (name, text) :: m.aliases.filter (·.1 ≠ name) }
    | (name, none) =>
      match m.aliases.lookup name with
      | some text => .ok (m.print 1 (shown name text))
      | none => .error (match m.dialect with
        | .plain => (m.complain ("alias: " ++ name ++ " not found\n")).done 1
        | .rich => m.fail ("alias: " ++ name ++ ": not found") 1)
  let args := if args.head? = some "-p" then args.tail else args
  if args.isEmpty then
    (m.print 1 (String.join (m.aliases.map fun entry => shown entry.1 entry.2))).done 0
  else forEach one args { m with status := 0 }

/-- Makes names stand for nothing but themselves. -/
def dropAliases : Builtin :=
  withOptions "unalias" ['a'] "unalias [-a] name [name ...]" false fun letters args m =>
    let one (name : String) (m : Machine) : Except (Flow × Machine) Machine :=
      if (m.aliases.lookup name).isSome then
        .ok { m with aliases := m.aliases.filter (·.1 ≠ name) }
      else .error (match m.dialect with
        | .plain => (m.complain ("unalias: " ++ name ++ " not found\n")).done 1
        | .rich => m.fail ("unalias: " ++ name ++ ": not found") 1)
    if letters.contains 'a' then ({ m with aliases := [] }).done 0
    else forEach one args { m with status := 0 }

/-- Computes expressions; the status tells whether the last one is not zero. -/
def computeAll : Builtin := fun args m =>
  match args with
  | [] => m.fail "let: expression expected" 1
  | args =>
    let step (state : Except String (Int × Machine)) (arg : String) :
        Except String (Int × Machine) := do
      let (_, m) ← state
      m.calculate arg.toList
    match args.foldl step (.ok (0, m)) with
    | .ok (n, m) => m.done (if n = 0 then 1 else 0)
    | .error text => m.fail ("let: " ++ text) 1

end SmellRefactor.Shell
