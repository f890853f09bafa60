import SmellRefactor.Shell.Format
import SmellRefactor.Shell.Utility.Files

/-!
# Programs that tell what is there

The names in directories, and what is known about files.  Everything belongs to one user, and since
files have no times, a fixed one stands for them.
-/

namespace SmellRefactor.Shell

/-- The names right below a location, with what stands there. -/
def childrenOf (tree : FileTree) (location : Location) : List (String × FileNode) :=
  tree.nodes.entries.filterMap fun (l, node) =>
    match l.getLast? with
    | some name => if l.dropLast = location then some (encoded name, node) else none
    | none => none

/-- The number of bytes of a file; a directory counts as one block. -/
def sizeOfNode : FileNode → Nat
  | .file content _ => content.size
  | .directory => 4096
  | .outlet written => written.size
  | _ => 0

/-- The permissions of what stands at some place. -/
def modeOfNode : FileNode → Mode
  | .file _ mode => mode
  | .directory | .program _ => 0o755
  | .device _ | .outlet _ => 0o666

/-- The letter of a kind of files. -/
def kindLetter : FileNode → String
  | .directory => "d"
  | .device _ => "c"
  | _ => "-"

/-! ## Names in directories -/

/-- A row of a long listing without its name. -/
def longRow (width : Nat) (node : FileNode) : String :=
  kindLetter node ++ modeLetters (modeOfNode node) ++ " " ++
    (if node.isDirectory then "2" else "1") ++ " root root " ++
    String.ofList ((Layout.integer ⟨[], width, none⟩ 'd' (sizeOfNode node))) ++ " Jan  1 00:00 "

/-- The mark behind a name that tells its kind. -/
def kindMark (o : Options) (node : FileNode) : String :=
  match node with
  | .directory => if o.has 'p' || o.has 'F' then "/" else ""
  | node => if o.has 'F' && !node.isDevice && (modeOfNode node).isExecutable then "*" else ""

/-- The lines for some names. -/
def listNames (o : Options) (entries : List (String × FileNode)) : String :=
  let width := (entries.map fun e => (toString (sizeOfNode e.2)).length).foldl max 1
  let shown := entries.map fun (name, node) =>
    let name := if o.has 'Q' then "\"" ++ name ++ "\"" else name
    (if o.has 'l' || o.has 'n' then longRow width node else "") ++ name ++ kindMark o node
  if o.has 'm' && !shown.isEmpty then ", ".intercalate shown ++ "\n" else unlines shown

/-- Names in the order that the options ask for. -/
def inListOrder (o : Options) (entries : List (String × FileNode)) : List (String × FileNode) :=
  let sorted := if o.has 'S' then
      entries.mergeSort fun a b => decide (sizeOfNode b.2 ≤ sizeOfNode a.2)
    else entries.mergeSort fun a b => decide (a.1 ≤ b.1)
  if o.has 'r' then sorted.reverse else sorted

/-- What a directory shows of itself. -/
def listDirectory (o : Options) (tree : FileTree) (location : Location) : String :=
  let children := childrenOf tree location
  let named := if o.has 'a' then
      (".", FileNode.directory) :: ("..", FileNode.directory) :: children
    else if o.has 'A' then children
    else children.filter fun entry => !entry.1.startsWith "."
  let blocks := (named.map fun entry => (sizeOfNode entry.2 + 4095) / 4096 * 4).foldl (· + ·) 0
  (if o.has 'l' || o.has 'n' || o.has 's' then "total " ++ toString blocks ++ "\n" else "") ++
    listNames o (inListOrder o named)

/-- The directories below one that is shown, each with its path. -/
def directoriesBelow (o : Options) (tree : FileTree) (path : String) (location : Location) :
    List (String × Location) :=
  let hidden (names : List String) : Bool := !o.has 'a' && !o.has 'A' &&
    names.any fun name => name.startsWith "."
  (subtree tree location).filterMap fun (l, node) =>
    let names := l.drop location.length
    if node.isDirectory && !names.isEmpty && !hidden names then
      some (names.foldl (fun path name => below path (encoded name)) path, l)
    else none

/-- Lists the names in directories. -/
def ls : Builtin :=
  withTable
    { flags := "aAbBcCdDfFgGhHiklLmnNopqQrRsStuUvxXZ1=", valued := "wIT", mixed := true
      badStatus := 2
      long := [("all", 'a'), ("almost-all", 'A'), ("directory", 'd'), ("reverse", 'r'),
        ("recursive", 'R'), ("color", '='), ("classify", 'F'), ("size", 's'),
        ("human-readable", 'h'), ("hide", 'I'), ("ignore", 'I')] }
    fun o m =>
      let paths := if o.operands.isEmpty then ["."] else o.operands
      let step (state : Nat × Machine × List (String × Location × FileNode)) (path : String) :
          Nat × Machine × List (String × Location × FileNode) :=
        let (status, m, found) := state
        match m.tree.lookup (pathOf path) with
        | .ok (location, node) => (status, m, found ++ [(path, location, node)])
        | .error e =>
          (2, m.warn ("cannot access '" ++ path ++ "': " ++ plainMessage e), found)
      let (status, m, found) := paths.foldl step (0, m, [])
      let (directories, files) := found.partition fun entry =>
        entry.2.2.isDirectory && !o.has 'd'
      let files := inListOrder o (files.map fun entry => (entry.1, entry.2.2))
      let directories := directories.mergeSort fun a b => decide (a.1 ≤ b.1)
      let directories := if o.has 'r' then directories.reverse else directories
      let places := directories.flatMap fun (path, location, _) =>
        (path, location) ::
          (if o.has 'R' then directoriesBelow o m.tree path location else [])
      let titled := 1 < paths.length || o.has 'R'
      let blocks := (if files.isEmpty then [] else [listNames o files]) ++
        places.map fun (path, location) =>
          (if titled then path ++ ":\n" else "") ++ listDirectory o m.tree location
      (m.print 1 ("\n".intercalate blocks)).done status

/-! ## What is known about files -/

/-- The name of a kind of files. -/
def kindName : FileNode → String
  | .directory => "directory"
  | .device _ => "character special file"
  | .file content _ => if content.isEmpty then "regular empty file" else "regular file"
  | _ => "regular file"

/-- What a letter of a format stands for. -/
def statusField (path : String) (node : FileNode) (c : Char) : String :=
  let mode := modeOfNode node
  match c with
  | 'n' => path
  | 'N' => "'" ++ path ++ "'"
  | 's' => toString (sizeOfNode node)
  | 'a' => octalText 1 mode
  | 'A' => kindLetter node ++ modeLetters mode
  | 'F' => kindName node
  | 'U' | 'G' => "root"
  | 'u' | 'g' => "0"
  | 'h' => if node.isDirectory then "2" else "1"
  | 'b' => toString ((sizeOfNode node + 4095) / 4096 * 8)
  | 'B' => "512"
  | 'o' => "4096"
  | '%' => "%"
  | _ => "?"

/-- Fills in a format; backslashes count only if they are wanted. -/
def fillStatus (escapes : Bool) (path : String) (node : FileNode) : List Char → String
  | '%' :: c :: rest => statusField path node c ++ fillStatus escapes path node rest
  | '\\' :: c :: rest =>
    let next := fillStatus escapes path node rest
    if !escapes then "\\" ++ c.toString ++ next
    else (match c with
      | 'n' => "\n"
      | 't' => "\t"
      | '0' => "\x00"
      | c => c.toString) ++ next
  | c :: rest => c.toString ++ fillStatus escapes path node rest
  | [] => ""

/-- Tells what is known about files. -/
def stat : Builtin :=
  withTable
    { flags := "fLt", valued := "cP", mixed := true, badStatus := 1
      long := [("format", 'c'), ("printf", 'P'), ("dereference", 'L'), ("terse", 't')] }
    fun o m =>
      let step (state : Nat × Machine) (path : String) : Nat × Machine :=
        let (status, m) := state
        match m.tree.lookup (pathOf path) with
        | .error e =>
          (1, m.warn ("cannot statx '" ++ path ++ "': " ++ plainMessage e))
        | .ok (_, node) =>
          match o.value? 'P', o.value? 'c' with
          | some format, _ => (status, m.print 1 (fillStatus true path node format.toList))
          | none, some format =>
            (status, m.print 1 (fillStatus false path node format.toList ++ "\n"))
          | none, none =>
            (status, m.print 1 ("  File: " ++ path ++ "\n  Size: " ++
              toString (sizeOfNode node) ++ "\n"))
      if o.operands.isEmpty then m.misuse "missing operand"
      else
        let (status, m) := o.operands.foldl step (0, m)
        m.done status

end SmellRefactor.Shell
