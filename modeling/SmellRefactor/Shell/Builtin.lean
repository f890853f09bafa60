import SmellRefactor.Shell.Builtin.Condition
import SmellRefactor.Shell.Builtin.Places
import SmellRefactor.Shell.Builtin.Printing
import SmellRefactor.Shell.Builtin.Reading
import SmellRefactor.Shell.Builtin.Steering
import SmellRefactor.Shell.Programs

/-!
# Commands of the shell

The table of the commands that a shell runs itself, and what a name stands for as a command.
-/

namespace SmellRefactor.Shell

/-- The commands of every shell. -/
def commonBuiltins : List (String × Builtin) :=
  [(":", constant 0), ("true", constant 0), ("false", constant 1), ("echo", echo),
    ("printf", printf), ("test", test "test"), ("[", bracket), ("kill", kill), ("exit", exit),
    ("return", returnStatus), ("break", leaveLoops "break" .leave),
    ("continue", leaveLoops "continue" .again), ("shift", shift), ("export", exportNames),
    ("readonly", sealNames), ("local", localNames), ("unset", unset), ("set", setArguments),
    ("trap", trap), ("wait", wait), ("cd", cd), ("pwd", pwd), ("read", read),
    ("getopts", getopts), ("umask", umask), ("alias", setAliases), ("unalias", dropAliases),
    ("jobs", jobs), ("fg", resumeJob "fg"), ("bg", resumeJob "bg"), ("times", times),
    ("ulimit", ulimit)]

/-- The commands that only the rich shell has. -/
def richBuiltins : List (String × Builtin) :=
  [("declare", declareNames), ("typeset", declareNames), ("let", computeAll), ("shopt", shopt),
    ("mapfile", mapfile), ("readarray", mapfile), ("disown", constant 0), ("enable", constant 0)]

/-- The commands of a dialect that are run by the shell as a whole. -/
def ownCommands : Dialect → List String
  | .plain => ["eval", "exec", "command", "type", ".", "hash"]
  | .rich => ["eval", "exec", "command", "type", ".", "source", "builtin", "hash"]

/-- A command of a dialect. -/
def builtin? (dialect : Dialect) (name : String) : Option Builtin :=
  match commonBuiltins.lookup name with
  | some run => some run
  | none => if dialect = .rich then richBuiltins.lookup name else none

/-- Whether a name is that of a command of a dialect. -/
def isBuiltin (dialect : Dialect) (name : String) : Bool :=
  (builtin? dialect name).isSome || (ownCommands dialect).contains name

/-- The commands in which an error ends the script, in the plain language. -/
def specialBuiltins : List String :=
  ["exit", "return", "break", "continue", "shift", "export", "readonly", "unset", "set", "trap",
    "exec", "eval", ".", ":", "times"]

/-- The commands that take lists of values as arguments. -/
def declarations : List String := ["declare", "typeset", "local", "export", "readonly"]

namespace Machine

/-- The directories in which the shell looks for programs. -/
def searchPath (m : Machine) : List String := ((m.get? "PATH").getD "").splitOn ":"

/-- The path of the program of a name. -/
def programPath? (m : Machine) (name : String) : Option String :=
  if name.isEmpty then none
  else if m.dialect = .plain && name.contains '/' then (m.standing name).map fun _ => name
  else (Shell.programPath? m.tree m.searchPath (decoded name)).map encoded

/-- What a name stands for as a command. -/
def commandOf? (m : Machine) (name : String) : Option String :=
  match m.grammar.aliases.lookup name with
  | some text => some ("alias " ++ name ++ "=" ++ quotedPlainly text)
  | none =>
    if (m.functions.lookup name).isSome || isBuiltin m.dialect name ||
        (reservedWords m.dialect).contains name then some name
    else m.programPath? name

/-- What a name stands for, in words. -/
def typeOf? (m : Machine) (name : String) : Option String :=
  if (reservedWords m.dialect).contains name then some (name ++ " is a shell keyword")
  else match m.aliases.lookup name with
  | some text => some (name ++ " is an alias for " ++ text)
  | none =>
    if (m.functions.lookup name).isSome then
      some (name ++ if m.dialect = .plain then " is a shell function" else " is a function")
    else if isBuiltin m.dialect name then
      some (name ++ if m.dialect = .plain && specialBuiltins.contains name then
        " is a special shell builtin" else " is a shell builtin")
    else (m.programPath? name).map fun path => name ++ " is " ++ path

/-- What kind of command a name stands for, in one word. -/
def kindOf? (m : Machine) (name : String) : Option String :=
  if (reservedWords m.dialect).contains name then some "keyword"
  else if (m.aliases.lookup name).isSome then some "alias"
  else if (m.functions.lookup name).isSome then some "function"
  else if isBuiltin m.dialect name then some "builtin"
  else (m.programPath? name).map fun _ => "file"

/-- Says of names what they are.  The status tells whether one of them is nothing. -/
def describeNames (m : Machine) (names : List String) : Flow × Machine :=
  match m.dialect, names with
  | .rich, "-t" :: names => forEach (one kindOf?) names { m with status := 0 }
  | .rich, "-P" :: names | .rich, "-p" :: names =>
    forEach (one programPath?) names { m with status := 0 }
  | .rich, "-a" :: names => forEach (one typeOf?) names { m with status := 0 }
  | _, names => forEach (one typeOf?) names { m with status := 0 }
where
  /-- Says what one name is. -/
  one (describe : Machine → String → Option String) (name : String) (m : Machine) :
      Except (Flow × Machine) Machine :=
    match describe m name, m.dialect with
    | some text, _ => .ok (m.print 1 (text ++ "\n"))
    | none, .plain => .error ((m.print 1 (name ++ ": not found\n")).done 127)
    | none, .rich =>
      if names.head?.any fun n => n.startsWith "-" then .error (m.done 1)
      else .error (m.fail ("type: " ++ name ++ ": not found") 1)

/-- Tells by what a name is run. -/
def tellCommands (m : Machine) (inWords : Bool) (names : List String) : Flow × Machine :=
  let tell (name : String) : Option String :=
    if inWords then m.typeOf? name else m.commandOf? name
  match m.dialect, names with
  | .plain, [] => m.done 0
  | .plain, name :: _ =>
    match tell name with
    | some text => (m.print 1 (text ++ "\n")).done 0
    | none => (if inWords then m.print 1 (name ++ ": not found\n") else m).done 127
  | .rich, names =>
    let found := names.filterMap tell
    let m := m.print 1 (String.join (found.map (· ++ "\n")))
    let missing := if inWords then names.filter fun name => (tell name).isNone else []
    let m := missing.foldl (fun m name => (m.fail ("command: " ++ name ++ ": not found") 1).2) m
    m.done (if found.isEmpty then 1 else 0)

/-- Looks for programs and remembers where they are, which is of no account. -/
def hashNames (m : Machine) (args : List String) : Flow × Machine :=
  let (letters, names) := leadingOptions args
  match letters.find? fun c => !(['r', 'v', 'l', 'd', 't', 'p'].contains c) with
  | some c => badOption "hash" c "hash [-lr] [-p pathname] [-dt] [name ...]" m
  | none =>
    let one (name : String) (m : Machine) : Except (Flow × Machine) Machine :=
      if (m.functions.lookup name).isSome || isBuiltin m.dialect name ||
          (m.programPath? name).isSome then .ok m
      else .error (m.fail ("hash: " ++ name ++ ": not found") 1)
    forEach one names { m with status := 0 }

end Machine

end SmellRefactor.Shell
