import SmellRefactor.Shell.Pattern
import SmellRefactor.Shell.Utility.Listing

/-!
# Finding files

`find` goes through directories, from the top down in the order of the names, and asks of each file
an expression of tests and actions.
-/

namespace SmellRefactor.Shell

/-- A number that is met exactly, or has to be exceeded or missed. -/
structure Measure where
  ordering : Ordering
  number : Nat
deriving Repr

namespace Measure

/-- Reads a measure such as `+5`. -/
def read? (text : List Char) : Option Measure :=
  let (ordering, digits) := match text with
    | '+' :: rest => (Ordering.gt, rest)
    | '-' :: rest => (Ordering.lt, rest)
    | rest => (Ordering.eq, rest)
  if digits.isEmpty || !digits.all Char.isDigit then none
  else some ⟨ordering, Decimal.valueOf 10 digits⟩

/-- Whether a number is as wanted. -/
def holds (measure : Measure) (n : Nat) : Bool := compare n measure.number == measure.ordering

end Measure

/-- What is asked of a file, or done with it. -/
inductive Search where
  | always
  | never
  | negated (search : Search)
  | both (first second : Search)
  | either (first second : Search)
  /-- The value of the first one does not count. -/
  | after (first second : Search)
  | name (pattern : List Matcher) (folded : Bool)
  | path (pattern : List Matcher) (folded : Bool)
  | kind (letters : List Char)
  | bare
  | size (measure : Measure) (unit : Nat)
  | mode (how : Char) (mode : Mode)
  | print (ending : String)
  | printAs (format : List Char)
  | run (words : List String) (within : Bool)
  | runAll (words : List String)
  | delete
  | quit
  | prune
deriving Repr, Inhabited

namespace Search

/-- Whether an expression does something. -/
def acts : Search → Bool
  | negated s => s.acts
  | both a b | either a b | after a b => a.acts || b.acts
  | print _ | printAs _ | run _ _ | runAll _ | delete => true
  | _ => false

/-- Whether an expression takes files away. -/
def deletes : Search → Bool
  | negated s => s.deletes
  | both a b | either a b | after a b => a.deletes || b.deletes
  | delete => true
  | _ => false

end Search

/-- The options of a whole search. -/
structure SearchRange where
  least : Nat
  most : Option Nat
  /-- Whether directories come behind what is in them. -/
  bottomUp : Bool

/-- A pattern, with letters in one case if the case does not count. -/
def foldedPattern (folded : Bool) (text : String) : List Matcher :=
  let text := if folded then text.toLower else text
  patternOf Dialect.rich.negators (text.toList.map fun c => (c, false))

/-- The number of bytes in a unit of sizes. -/
def sizeUnit? : List Char → Option Nat
  | [] | ['b'] => some 512
  | ['c'] => some 1
  | ['w'] => some 2
  | ['k'] => some 1024
  | ['M'] => some 1048576
  | ['G'] => some 1073741824
  | _ => none

/-- Reads the arguments of a program up to their end. -/
def readRun (rest : List String) : Option (List String × Bool × List String) :=
  let stop := rest.findIdx? fun word => word = ";"
  let plus := (rest.zip rest.tail).findIdx? fun pair => pair = ("\x7b\x7d", "+")
  match stop, plus with
  | some n, some k =>
    if k + 1 < n then some (rest.take (k + 1), true, rest.drop (k + 2))
    else some (rest.take n, false, rest.drop (n + 1))
  | some n, none => some (rest.take n, false, rest.drop (n + 1))
  | none, some k => some (rest.take (k + 1), true, rest.drop (k + 2))
  | none, none => none

/-- Reads a test or action with a value. -/
def readValued (name value : String) : Option (Except String Search) :=
  let bad (text : String) : Option (Except String Search) := some (.error text)
  match name with
  | "-name" => some (.ok (.name (foldedPattern false value) false))
  | "-iname" => some (.ok (.name (foldedPattern true value) true))
  | "-path" | "-wholename" => some (.ok (.path (foldedPattern false value) false))
  | "-ipath" => some (.ok (.path (foldedPattern true value) true))
  | "-type" =>
    let letters := value.toList.filter (· ≠ ',')
    match letters.find? fun c => !"bcdpflsD".toList.contains c with
    | some _ => bad ("Unknown argument to -type: " ++ value)
    | none => some (.ok (.kind letters))
  | "-size" =>
    let digits := value.toList.takeWhile fun c => c.isDigit || c = '+' || c = '-'
    match Measure.read? digits, sizeUnit? (value.toList.drop digits.length) with
    | some measure, some unit => some (.ok (.size measure unit))
    | _, _ => bad ("Invalid argument \x60" ++ value ++ "' to -size")
  | "-perm" =>
    let how := value.toList.head?.filter fun c => c = '-' || c = '/'
    let text := if how.isSome then (value.drop 1).toString else value
    match changedMode? false 0 text 0 with
    | some mode => some (.ok (.mode (how.getD '=') mode))
    | none => bad ("invalid mode '" ++ value ++ "'")
  | "-newer" => some (.ok .never)
  | "-printf" => some (.ok (.printAs value.toList))
  | "-user" | "-group" | "-uid" | "-gid" =>
    some (.ok (if value = "root" || value = "0" then .always else .never))
  | _ => none

/-- The tests and actions without a value. -/
def plainSearches : List (String × Search) :=
  [("-print", .print "\n"), ("-print0", .print "\x00"), ("-delete", .delete), ("-quit", .quit),
    ("-prune", .prune), ("-empty", .bare), ("-true", .always), ("-false", .never),
    ("-depth", .always), ("-readable", .always), ("-writable", .always)]

mutual

/-- Reads expressions joined by `,` and `-o`. -/
def readEither : Nat → List String → Except String (Search × List String)
  | 0, _ => .error "invalid expression"
  | fuel + 1, words => do
    let (first, rest) ← readBoth fuel words
    match rest with
    | "-o" :: rest | "-or" :: rest =>
      let (second, rest) ← readEither fuel rest
      return (.either first second, rest)
    | "," :: rest =>
      let (second, rest) ← readEither fuel rest
      return (.after first second, rest)
    | rest => return (first, rest)

/-- Reads expressions joined by `-a`, which may be left out. -/
def readBoth : Nat → List String → Except String (Search × List String)
  | 0, _ => .error "invalid expression"
  | fuel + 1, words => do
    let (first, rest) ← readSearch fuel words
    match rest with
    | [] | ")" :: _ | "-o" :: _ | "-or" :: _ | "," :: _ => return (first, rest)
    | "-a" :: rest | "-and" :: rest | rest =>
      let (second, rest) ← readBoth fuel rest
      return (.both first second, rest)

/-- Reads one test or action. -/
def readSearch : Nat → List String → Except String (Search × List String)
  | 0, _ => .error "invalid expression"
  | fuel + 1, words =>
    match words with
    | [] => .error "invalid expression; expected an expression after the last operator"
    | "!" :: rest | "-not" :: rest => do
      let (search, rest) ← readSearch fuel rest
      return (.negated search, rest)
    | "(" :: rest => do
      let (search, rest) ← readEither fuel rest
      match rest with
      | ")" :: rest => return (search, rest)
      | _ => throw "invalid expression; I was expecting to find a ')' somewhere but did not see one."
    | name :: rest =>
      match plainSearches.lookup name with
      | some search => .ok (search, rest)
      | none =>
        if name = "-exec" || name = "-execdir" || name = "-ok" then
          match readRun rest with
          | some ([], _, _) | none => .error ("missing argument to \x60" ++ name ++ "'")
          | some (words, true, rest) => .ok (.runAll words, rest)
          | some (words, false, rest) => .ok (.run words (name = "-execdir"), rest)
        else match readValued name (rest.head?.getD "") with
        | some result =>
          if rest.isEmpty then .error ("missing argument to \x60" ++ name ++ "'")
          else result.map fun search => (search, rest.tail)
        | none =>
          if name.startsWith "-" then .error ("unknown predicate \x60" ++ name ++ "'")
          else .error ("paths must precede expression: \x60" ++ name ++ "'")

end

/-! ## Going through the files -/

/-- A file that is looked at. -/
structure Visit where
  path : String
  location : Location
  node : FileNode
  depth : Nat

/-- The state of a search. -/
structure SearchState where
  machine : Machine
  status : Nat
  ended : Bool
  pruned : List Location
  /-- The files for the programs that are started once for all of them. -/
  gathered : List (List String × List String)

/-- The machine with another current directory. -/
def Machine.inDirectory (m : Machine) (location : Location) : Machine :=
  { m with tree := { m.tree with current := location } }

/-- What a letter of a format stands for. -/
def visitField (v : Visit) (c : Char) : String :=
  match c with
  | 'p' => v.path
  | 'f' => baseName v.path
  | 'h' => if v.path.contains '/' then directoryName v.path else "."
  | 's' => toString (sizeOfNode v.node)
  | 'd' => toString v.depth
  | 'y' => match v.node with
    | .directory => "d"
    | .device _ => "c"
    | _ => "f"
  | 'm' => octalText 1 (modeOfNode v.node)
  | 'M' => kindLetter v.node ++ modeLetters (modeOfNode v.node)
  | 'u' | 'g' => "root"
  | '%' => "%"
  | c => String.ofList ['%', c]

/-- Fills in a format. -/
def fillVisit (v : Visit) : List Char → String
  | '%' :: c :: rest => visitField v c ++ fillVisit v rest
  | '\\' :: c :: rest =>
    (match c with
      | 'n' => "\n"
      | 't' => "\t"
      | '0' => "\x00"
      | '\\' => "\\"
      | c => String.ofList ['\\', c]) ++ fillVisit v rest
  | c :: rest => c.toString ++ fillVisit v rest
  | [] => ""

/-- Starts a program for a search. -/
def startFound (start : Starter) (words : List String) (s : SearchState) : Bool × SearchState :=
  match words with
  | [] => (false, s)
  | name :: args =>
    match start name args s.machine with
    | .ok (_, m) => (m.status = 0, { s with machine := { m with status := 0 } })
    | .error e => (false, { s with
        machine := s.machine.warn ("'" ++ name ++ "': " ++ plainMessage e) })

/-- Answers an expression for a file. -/
def answer (start : Starter) (v : Visit) : Search → SearchState → Bool × SearchState
  | .always, s => (true, s)
  | .never, s => (false, s)
  | .negated search, s =>
    let (b, s) := answer start v search s
    (!b, s)
  | .both first second, s =>
    let (b, s) := answer start v first s
    if b && !s.ended then answer start v second s else (b, s)
  | .either first second, s =>
    let (b, s) := answer start v first s
    if b || s.ended then (b, s) else answer start v second s
  | .after first second, s =>
    let (_, s) := answer start v first s
    if s.ended then (false, s) else answer start v second s
  | .name pattern folded, s =>
    let name := baseName v.path
    (matchesAll pattern (if folded then name.toLower else name).toList, s)
  | .path pattern folded, s =>
    (matchesAll pattern (if folded then v.path.toLower else v.path).toList, s)
  | .kind letters, s =>
    let letter := match v.node with
      | .directory => 'd'
      | .device _ => 'c'
      | _ => 'f'
    (letters.contains letter, s)
  | .bare, s =>
    ((match v.node with
      | .directory => isBare s.machine.tree v.location
      | .file content _ => content.isEmpty
      | _ => false), s)
  | .size measure unit, s => (measure.holds ((sizeOfNode v.node + unit - 1) / unit), s)
  | .mode how mode, s =>
    let has := modeOfNode v.node
    ((match how with
      | '-' => has &&& mode == mode
      | '/' => mode == 0 || has &&& mode != 0
      | _ => has == mode), s)
  | .print ending, s => (true, { s with machine := s.machine.print 1 (v.path ++ ending) })
  | .printAs format, s => (true, { s with machine := s.machine.print 1 (fillVisit v format) })
  | .run words within, s =>
    let path := if within then "./" ++ baseName v.path else v.path
    let words := words.map fun word => word.replace "\x7b\x7d" path
    if within then
      let inside := s.machine.inDirectory v.location.dropLast
      let (b, after) := startFound start words { s with machine := inside }
      (b, { after with machine := after.machine.inDirectory s.machine.tree.current })
    else startFound start words s
  | .runAll words, s =>
    let paths := (s.gathered.lookup words).getD []
    (true, { s with
      gathered := s.gathered.filter (fun entry => entry.1 ≠ words) ++ [(words, paths ++ [v.path])] })
  | .delete, s =>
    if v.location = s.machine.tree.current then (true, s)
    else if v.node.isDirectory && !isBare s.machine.tree v.location then
      (false, { s with
        status := 1
        machine := s.machine.warn ("cannot delete '" ++ v.path ++ "': Directory not empty") })
    else (true, { s with
      machine := s.machine.withTree (Shell.prune s.machine.tree v.location) })
  | .quit, s => (true, { s with ended := true })
  | .prune, s => (true, { s with pruned := v.location :: s.pruned })

/-- The files from a path on, in the order in which they are looked at. -/
def visits (range : SearchRange) (tree : FileTree) (path : String) (location : Location)
    (node : FileNode) : List Visit :=
  let rest := (subtree tree location).filter fun entry => entry.1 ≠ location
  let all := ⟨path, location, node, 0⟩ :: rest.map fun (l, node) =>
    let names := l.drop location.length
    Visit.mk (names.foldl (fun path name => below path (encoded name)) path) l node names.length
  if range.bottomUp then
    all.mergeSort fun a b =>
      if a.location.isPrefixOf b.location then a.location = b.location
      else b.location.isPrefixOf a.location || (compare a.location b.location).isLE
  else all

/-- Looks at the files from a path on. -/
def searchFrom (start : Starter) (range : SearchRange) (search : Search) (path : String)
    (s : SearchState) : SearchState :=
  if s.ended then s
  else match s.machine.tree.lookup (pathOf path) with
  | .error e => { s with
      status := 1, machine := s.machine.warn ("'" ++ path ++ "': " ++ plainMessage e) }
  | .ok (location, node) =>
    (visits range s.machine.tree path location node).foldl
      (fun s v =>
        let hidden := s.pruned.any fun l => l ≠ v.location && l.isPrefixOf v.location
        let gone := !v.location.isEmpty && (s.machine.tree.node? v.location).isNone
        if s.ended || hidden || gone || v.depth < range.least || range.most.any (· < v.depth) then s
        else (answer start v search s).2) s

/-- Takes the options of the whole search out of the words of an expression. -/
def splitRange : Nat → List String → SearchRange → Except String (SearchRange × List String)
  | 0, words, range => .ok (range, words)
  | _, [], range => .ok (range, [])
  | fuel + 1, word :: rest, range =>
    if word = "-maxdepth" || word = "-mindepth" then
      match rest with
      | [] => .error ("missing argument to \x60" ++ word ++ "'")
      | value :: rest =>
        match value.toNat? with
        | none => .error ("Expected a positive decimal integer argument to " ++ word ++
            ", but got '" ++ value ++ "'")
        | some n => splitRange fuel rest
            (if word = "-maxdepth" then { range with most := some n } else { range with least := n })
    else if word = "-mount" || word = "-xdev" then splitRange fuel rest range
    else do
      let (range, rest) ← splitRange fuel rest
        (if word = "-depth" then { range with bottomUp := true } else range)
      return (range, word :: rest)

/-- Finds files. -/
def find : Utility := fun start args m =>
  let args := args.dropWhile fun arg => ["-L", "-P", "-H"].contains arg
  let isPath (arg : String) : Bool :=
    !(arg.startsWith "-" && arg ≠ "-") && arg ≠ "(" && arg ≠ "!" && arg ≠ ")"
  let paths := args.takeWhile isPath
  let words := args.drop paths.length
  let parsed : Except String (SearchRange × Search) := do
    let (range, words) ← splitRange (words.length + 1) words ⟨0, none, false⟩
    if words.isEmpty then return (range, .print "\n")
    let (search, rest) ← readEither (4 * words.length + 8) words
    if !rest.isEmpty then
      throw "invalid expression; you have too many ')'"
    let search := if search.acts then search else .both search (.print "\n")
    return ({ range with bottomUp := range.bottomUp || search.deletes }, search)
  match parsed with
  | .error text => m.report text 1
  | .ok (range, search) =>
    let s := (if paths.isEmpty then ["."] else paths).foldl
      (fun s path => searchFrom start range search path s) ⟨m, 0, false, [], []⟩
    let s := s.gathered.foldl
      (fun s (words, paths) =>
        let (ok, s) := startFound start (words.dropLast ++ paths) s
        if ok then s else { s with status := 1 }) s
    s.machine.done s.status

end SmellRefactor.Shell
