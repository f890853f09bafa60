import SmellRefactor.Shell.Permission
import SmellRefactor.Shell.Utility.Paths

/-!
# Programs that change files

Making, copying, moving and taking away files and directories.  Files have no times and no links:
a link to a file is a copy of it.
-/

namespace SmellRefactor.Shell

namespace Machine

/-- Whether a path leads to a directory. -/
def isDirectory (m : Machine) (path : String) : Bool :=
  (m.standing path).any fun entry => entry.2.isDirectory

/-- The machine with another tree. -/
def withTree (m : Machine) (tree : FileTree) : Machine := { m with tree := tree }

/-- The permissions of what stands at a path. -/
def modeOf (m : Machine) (path : String) : Mode :=
  match m.standing path with
  | some (_, .file _ mode) => mode
  | some (_, .directory) | some (_, .program _) => 0o755
  | _ => 0o666

/-- Gives the file at a path other permissions. -/
def setMode (m : Machine) (path : String) (mode : Mode) : Machine :=
  match m.standing path with
  | some (location, .file content _) => m.withTree (m.tree.place location (.file content mode))
  | _ => m

/-- The location to which a path leads where something may be made, if the directory above is there.
-/
def freeLocation (m : Machine) (path : String) : Except SystemError Location := do
  let location ← m.tree.locate (pathOf path)
  m.tree.enter (FileTree.above location)
  return location

end Machine

/-- What stands below a location, and the location itself, from the top. -/
def subtree (tree : FileTree) (location : Location) : List (Location × FileNode) :=
  tree.nodes.entries.filter fun entry => location.isPrefixOf entry.1

/-- The tree without a location and all that stands below it. -/
def prune (tree : FileTree) (location : Location) : FileTree :=
  { tree with nodes := tree.nodes.filterMap fun l node =>
      if location.isPrefixOf l then none else some node }

/-- Whether nothing stands below a location. -/
def isBare (tree : FileTree) (location : Location) : Bool :=
  (subtree tree location).all fun entry => entry.1 = location

/-! ## Copying and moving -/

/-- The files that are copied or moved, each with the path where it goes. -/
def transfers (o : Options) (m : Machine) : Except (Machine → Flow × Machine)
    (List (String × String)) :=
  let into (directory : String) (sources : List String) : List (String × String) :=
    sources.map fun source => (source, below directory (baseName source))
  match o.value? 't', o.operands with
  | _, [] => .error fun m => m.misuse "missing file operand"
  | some directory, sources =>
    if m.isDirectory directory then .ok (into directory sources)
    else .error fun m => m.report ("target directory '" ++ directory ++ "': " ++
      missing directory) 1
  | none, [source] => .error fun m =>
      m.misuse ("missing destination file operand after '" ++ source ++ "'")
  | none, [source, target] =>
    if o.has 'T' || !m.isDirectory target then .ok [(source, target)]
    else .ok (into target [source])
  | none, sources =>
    if o.has 'T' then .error fun m => m.misuse ("extra operand '" ++ (sources[2]?).getD "" ++ "'")
    else
      let target := sources.getLast?.getD ""
      if m.isDirectory target then .ok (into target sources.dropLast)
      else .error fun m => m.report ("target '" ++ target ++ "': " ++ missing target) 1
where
  /-- Why a path does not lead to a directory. -/
  missing (path : String) : String :=
    match m.tree.lookup (pathOf path) with
    | .ok _ => "Not a directory"
    | .error e => plainMessage e

/-- Copies one file into a place.  The options tell whether permissions are kept. -/
def copyFile (o : Options) (source target : String) (m : Machine) : Nat × Machine :=
  match if source = "-" then (m.tree.read (pathOf source)).map fun b => (textOfBytes b, m)
    else m.openInput source with
  | .error e =>
    (1, m.warn ("cannot open '" ++ source ++ "' for reading: " ++ plainMessage e))
  | .ok (text, m) =>
    let mode := m.modeOf source
    let keep := o.has 'p' || o.has 'a'
    let isNew := (m.standing target).isNone
    match overwrite target text m with
    | .error e =>
      let e := if e = .isDirectory then SystemError.notDirectory else e
      (1, m.warn ("cannot create regular file '" ++ target ++ "': " ++ plainMessage e))
    | .ok m =>
      let m := if keep then m.setMode target mode
        else if isNew then m.setMode target (mode &&& (0o777 ^^^ m.mask))
        else m
      let m := if o.has 'v' then m.print 1 ("'" ++ source ++ "' -> '" ++ target ++ "'\n") else m
      match m.refused with
      | none => (0, m)
      | some e => (1, { m with refused := none }.warn ("error writing '" ++ target ++ "': " ++
          plainMessage e))

/-- Copies a directory with all that stands below it. -/
def copyDirectory (o : Options) (source target : String) (at_ : Location) (m : Machine) :
    Nat × Machine :=
  match m.freeLocation target with
  | .error e => (1, m.warn ("cannot create directory '" ++ target ++ "': " ++ plainMessage e))
  | .ok goal =>
    if at_.isPrefixOf goal then
      (1, m.warn ("cannot copy a directory, '" ++ source ++ "', into itself, '" ++ target ++ "'"))
    else
      let tree := (subtree m.tree at_).foldl
        (fun tree (location, node) => tree.place (goal ++ location.drop at_.length) node) m.tree
      let m := m.withTree tree
      (0, if o.has 'v' then m.print 1 ("'" ++ source ++ "' -> '" ++ target ++ "'\n") else m)

/-- Copies one file or directory. -/
def copyOne (o : Options) (source target : String) (m : Machine) : Nat × Machine :=
  let recursive := o.has 'r' || o.has 'R' || o.has 'a'
  match m.tree.lookup (pathOf source) with
  | .error e => (1, m.warn ("cannot stat '" ++ source ++ "': " ++ plainMessage e))
  | .ok (at_, node) =>
    let goal := m.standing target
    if node.isDirectory && !recursive then
      (1, m.warn ("-r not specified; omitting directory '" ++ source ++ "'"))
    else if goal.any fun entry => entry.1 = at_ then
      (1, m.warn ("'" ++ source ++ "' and '" ++ target ++ "' are the same file"))
    else if o.has 'n' && goal.isSome then (0, m)
    else match node.isDirectory, goal.map fun entry => entry.2.isDirectory with
    | true, some false =>
      (1, m.warn ("cannot overwrite non-directory '" ++ target ++ "' with directory '" ++ source ++
        "'"))
    | false, some true =>
      (1, m.warn ("cannot overwrite directory '" ++ target ++ "' with non-directory"))
    | true, _ => copyDirectory o source target at_ m
    | false, _ => copyFile o source target m

/-- Runs a program that takes files to other places one after another. -/
def transferWith (t : OptionTable)
    (one : Options → String → String → Machine → Nat × Machine) : Builtin :=
  withTable t fun o m =>
    match transfers o m with
    | .error complain => complain m
    | .ok pairs =>
      let (status, m) := pairs.foldl
        (fun (state : Nat × Machine) (source, target) =>
          let (failed, m) := one o source target state.2
          (max state.1 failed, m)) (0, m)
      m.done status

/-- Copies files. -/
def cp : Builtin :=
  transferWith
    { flags := "abdfiHlLnPpRrsTuvxZ", valued := "tS", mixed := true, badStatus := 1
      long := [("archive", 'a'), ("force", 'f'), ("interactive", 'i'), ("no-clobber", 'n'),
        ("preserve", 'p'), ("recursive", 'r'), ("target-directory", 't'),
        ("no-target-directory", 'T'), ("update", 'u'), ("verbose", 'v')] } copyOne

/-- Moves one file or directory. -/
def moveOne (o : Options) (source target : String) (m : Machine) : Nat × Machine :=
  match m.tree.lookup (pathOf source) with
  | .error e => (1, m.warn ("cannot stat '" ++ source ++ "': " ++ plainMessage e))
  | .ok (at_, node) =>
    let standing := m.standing target
    match m.freeLocation target with
    | .error e =>
      (1, m.warn ("cannot move '" ++ source ++ "' to '" ++ target ++ "': " ++ plainMessage e))
    | .ok goal =>
      if goal = at_ then
        (1, m.warn ("'" ++ source ++ "' and '" ++ target ++ "' are the same file"))
      else if o.has 'n' && standing.isSome then (0, m)
      else if node.isDirectory && at_.isPrefixOf goal then
        (1, m.warn ("cannot move '" ++ source ++ "' to a subdirectory of itself, '" ++ target ++
          "'"))
      else match node.isDirectory, standing.map fun entry => entry.2.isDirectory with
      | true, some false =>
        (1, m.warn ("cannot overwrite non-directory '" ++ target ++ "' with directory '" ++
          source ++ "'"))
      | false, some true =>
        (1, m.warn ("cannot overwrite directory '" ++ target ++ "' with non-directory"))
      | isDirectory, _ =>
        if isDirectory && standing.isSome && !isBare m.tree goal then
          (1, m.warn ("cannot overwrite '" ++ target ++ "': Directory not empty"))
        else if !isDirectory && target.endsWith "/" then
          (1, m.warn ("cannot move '" ++ source ++ "' to '" ++ target ++ "': Not a directory"))
        else if (standing.any fun entry => entry.2.isDevice) then
          let (status, m) := copyFile o source target m
          (status, m.withTree (m.tree.erase at_))
        else
          let moved := subtree m.tree at_
          let tree := moved.foldl
            (fun tree (location, node) => tree.place (goal ++ location.drop at_.length) node)
            (prune m.tree at_)
          let m := m.withTree tree
          (0, if o.has 'v' then
              m.print 1 ("renamed '" ++ source ++ "' -> '" ++ target ++ "'\n")
            else m)

/-- Moves files. -/
def mv : Builtin :=
  transferWith
    { flags := "bfinTuvZ", valued := "tS", mixed := true, badStatus := 1
      long := [("force", 'f'), ("interactive", 'i'), ("no-clobber", 'n'),
        ("target-directory", 't'), ("no-target-directory", 'T'), ("update", 'u'),
        ("verbose", 'v')] } moveOne

/-- Makes a file the copy of another one. -/
def linkOne (o : Options) (source target : String) (m : Machine) : Nat × Machine :=
  let symbolic := o.has 's'
  let kind := if symbolic then "symbolic link" else "hard link"
  let node := m.standing source
  match m.tree.lookup (pathOf source), m.freeLocation target with
  | .error e, _ =>
    if symbolic then (0, m)
    else (1, m.warn ("failed to access '" ++ source ++ "': " ++ plainMessage e))
  | .ok _, .error e =>
    (1, m.warn ("failed to create " ++ kind ++ " '" ++ target ++ "': " ++ plainMessage e))
  | .ok (_, .directory), .ok _ =>
    if symbolic then (0, m)
    else (1, m.warn (source ++ ": hard link not allowed for directory"))
  | .ok _, .ok goal =>
    if (m.tree.node? goal).isSome && !o.has 'f' then
      (1, m.warn ("failed to create " ++ kind ++ " '" ++ target ++ "': File exists"))
    else match node with
    | some (_, node) => (0, m.withTree (m.tree.place goal node))
    | none => (0, m)

/-- Makes links to files. -/
def ln : Builtin := fun args m =>
  let table : OptionTable :=
    { flags := "bdFfinLPrsTv", valued := "tS", mixed := true, badStatus := 1
      long := [("symbolic", 's'), ("force", 'f'), ("interactive", 'i'), ("verbose", 'v'),
        ("no-dereference", 'n'), ("relative", 'r'), ("target-directory", 't'),
        ("no-target-directory", 'T')] }
  -- With one file named, the link goes into the current directory.
  withTable table (fun o m =>
    let o := match o.operands with
      | [source] => { o with operands := [source, "."] }
      | _ => o
    match transfers o m with
    | .error complain => complain m
    | .ok pairs =>
      let (status, m) := pairs.foldl
        (fun (state : Nat × Machine) (source, target) =>
          let (failed, m) := linkOne o source target state.2
          (max state.1 failed, m)) (0, m)
      m.done status) args m

/-! ## Taking away -/

/-- Takes away one file or directory. -/
def removeOne (o : Options) (path : String) (m : Machine) : Nat × Machine :=
  let recursive := o.has 'r' || o.has 'R'
  let refuse (text : String) : Nat × Machine :=
    (1, m.warn ("cannot remove '" ++ path ++ "': " ++ text))
  let last := baseName path
  if recursive && (last = "." || last = "..") then
    (1, m.warn ("refusing to remove '.' or '..' directory: skipping '" ++ path ++ "'"))
  else match m.tree.lookup (pathOf path) with
  | .error e =>
    if o.has 'f' && (e = .notFound || e = .notDirectory) then (0, m) else refuse (plainMessage e)
  | .ok (location, node) =>
    let erase (kind : String) : Nat × Machine :=
      let m := m.withTree (prune m.tree location)
      (0, if o.has 'v' then m.print 1 ("removed " ++ kind ++ "'" ++ path ++ "'\n") else m)
    if node.isDirectory then
      if recursive then
        if location.isEmpty then
          (1, (m.warn "it is dangerous to operate recursively on '/'").warn
            "use --no-preserve-root to override this failsafe")
        else erase "directory "
      else if o.has 'd' then
        if isBare m.tree location then erase "directory " else refuse "Directory not empty"
      else refuse "Is a directory"
    else if o.has 'i' then
      let empty : Bool := match node with
        | .file content _ => content.isEmpty
        | _ => false
      let m := m.complain (m.name ++ ": remove regular " ++ (if empty then "empty " else "") ++
        "file '" ++ path ++ "'? ")
      let answer := (m.input.splitOn "\n").head?.getD ""
      let m := m.readUpTo (String.ofList ((m.input.toList.dropWhile (· ≠ '\n')).drop 1))
      if answer.startsWith "y" || answer.startsWith "Y" then
        (0, m.withTree (prune m.tree location))
      else (0, m)
    else erase ""

/-- Takes away files. -/
def rm : Builtin :=
  withTable
    { flags := "dfiIrRv", valued := "", mixed := true, badStatus := 1
      long := [("dir", 'd'), ("force", 'f'), ("recursive", 'r'), ("verbose", 'v')] }
    fun o m =>
      if o.operands.isEmpty then if o.has 'f' then m.done 0 else m.misuse "missing operand"
      else
        let (status, m) := o.operands.foldl
          (fun (state : Nat × Machine) path =>
            let (failed, m) := removeOne o path state.2
            (max state.1 failed, m)) (0, m)
        m.done status

/-- Takes away a directory that is empty. -/
def removeDirectory (path : String) (m : Machine) : Except SystemError Machine := do
  if path.isEmpty then throw .notFound
  match ← m.tree.lookup (pathOf path) with
  | (location, .directory) =>
    if baseName path = "." then throw .invalidArgument
    else if isBare m.tree location then return m.withTree (m.tree.erase location)
    else throw .directoryNotEmpty
  | _ => throw .notDirectory

/-- Takes away directories that are empty. -/
def rmdir : Builtin :=
  withTable
    { flags := "pv", valued := "", mixed := true, badStatus := 1
      long := [("parents", 'p'), ("verbose", 'v'), ("ignore-fail-on-non-empty", 'I')] }
    fun o m =>
      let paths := o.operands.flatMap fun path =>
        if o.has 'p' then
          let parts := (path.splitOn "/").filter (· ≠ "")
          ((List.range parts.length).map fun n => "/".intercalate (parts.take (n + 1))).reverse
        else [path]
      let step (state : Nat × Machine) (path : String) : Nat × Machine :=
        let (status, m) := state
        match removeDirectory path m with
        | .ok m =>
          (status, if o.has 'v' then
              m.print 1 (m.name ++ ": removing directory, '" ++ path ++ "'\n")
            else m)
        | .error e => (1, m.warn ("failed to remove '" ++ path ++ "': " ++ plainMessage e))
      if o.operands.isEmpty then m.misuse "missing operand"
      else
        let (status, m) := paths.foldl step (0, m)
        m.done status

/-- Takes away a file. -/
def unlink : Builtin :=
  withTable { flags := "", valued := "", mixed := true, badStatus := 1, long := [] } fun o m =>
    match o.operands with
    | [] => m.misuse "missing operand"
    | [path] =>
      match m.tree.remove (pathOf path) with
      | .ok tree => (m.withTree tree).done 0
      | .error e => m.report ("cannot unlink '" ++ path ++ "': " ++ plainMessage e) 1
    | _ :: extra :: _ => m.misuse ("extra operand '" ++ extra ++ "'")

/-! ## Making -/

/-- Makes a directory where nothing stands yet. -/
def makeDirectory (path : String) (m : Machine) : Except SystemError Machine := do
  if path.isEmpty then throw .notFound
  let location ← m.freeLocation path
  if (m.tree.node? location).isSome then throw .alreadyExists
  return m.withTree (m.tree.place location .directory)

/-- The beginnings of a path that end behind one of its parts. -/
def beginnings (path : String) : List String :=
  let parts := (path.splitOn "/").filter (· ≠ "")
  let start := if path.startsWith "/" then "/" else ""
  (List.range parts.length).map fun n => start ++ "/".intercalate (parts.take (n + 1))

/-- Makes directories. -/
def mkdir : Builtin :=
  withTable
    { flags := "pvZ", valued := "m", mixed := true, badStatus := 1
      long := [("parents", 'p'), ("verbose", 'v'), ("mode", 'm')] }
    fun o m =>
      let make (path : String) (m : Machine) : Nat × Machine :=
        match makeDirectory path m with
        | .ok m =>
          (0, if o.has 'v' then
              m.print 1 (m.name ++ ": created directory '" ++ path ++ "'\n")
            else m)
        | .error e => (1, m.warn ("cannot create directory '" ++ path ++ "': " ++ plainMessage e))
      let step (state : Nat × Machine) (path : String) : Nat × Machine :=
        let (status, m) := state
        if o.has 'p' then
          let paths := if path.isEmpty then [""] else beginnings path
          let last := paths.length - 1
          let (failed, m) := paths.zipIdx.foldl
            (fun (state : Nat × Machine) (path, i) =>
              let (failed, m) := state
              if failed ≠ 0 || m.isDirectory path then state
              else if i < last && (m.standing path).isSome then
                (1, m.warn ("cannot create directory '" ++ path ++ "': Not a directory"))
              else make path m) (0, m)
          (max status failed, m)
        else
          let (failed, m) := make path m
          (max status failed, m)
      match (o.value? 'm').filter fun text => (changedMode? true m.mask text 0o777).isNone with
      | some text => m.report ("invalid mode '" ++ text ++ "'") 1
      | none =>
        if o.operands.isEmpty then m.misuse "missing operand"
        else
          let (status, m) := o.operands.foldl step (0, m)
          m.done status

/-- Makes files, or would change their times. -/
def touch : Builtin :=
  withTable
    { flags := "acfhm", valued := "drt", mixed := true, badStatus := 1
      long := [("no-create", 'c'), ("date", 'd'), ("reference", 'r'), ("time", 'T')] }
    fun o m =>
      let step (state : Nat × Machine) (path : String) : Nat × Machine :=
        let (status, m) := state
        match m.tree.lookup (pathOf path) with
        | .ok _ => (status, m)
        | .error e =>
          if o.has 'c' && e = .notFound then (status, m)
          else if path.endsWith "/" && e = .notFound then
            (1, m.warn ("setting times of '" ++ path ++ "': No such file or directory"))
          else match if e = .notFound then m.openOutput path true else .error e with
          | .ok (_, m) => (status, m)
          | .error e => (1, m.warn ("cannot touch '" ++ path ++ "': " ++ plainMessage e))
      match (o.value? 'r').bind fun path => match m.tree.lookup (pathOf path) with
          | .ok _ => none
          | .error e => some ("failed to get attributes of '" ++ path ++ "': " ++ plainMessage e)
      with
      | some text => m.report text 1
      | none =>
        match (o.value? 't').filter fun text =>
            (text.toList.filter Char.isDigit).length < 8 with
        | some text => m.report ("invalid date format '" ++ text ++ "'") 1
        | none =>
          if o.operands.isEmpty then m.misuse "missing file operand"
          else
            let (status, m) := o.operands.foldl step (0, m)
            m.done status

/-- Cuts files off, or fills them up with zero bytes. -/
def truncate : Builtin :=
  withTable
    { flags := "co", valued := "rs", mixed := true, badStatus := 1
      long := [("no-create", 'c'), ("size", 's'), ("reference", 'r')] }
    fun o m =>
      match o.value? 's', o.operands with
      | none, _ => m.misuse "you must specify either '--size' or '--reference'"
      | some _, [] => m.misuse "missing file operand"
      | some text, paths =>
        let sign := text.toList.head?.filter "+-<>/%".toList.contains
        let number := if sign.isSome then (text.drop 1).toString else text
        match sizeOf? number with
        | none => m.report ("Invalid number: '" ++ text ++ "'") 1
        | some n =>
          let size (old : Nat) : Nat := match sign with
            | some '+' => old + n
            | some '-' => old - n
            | some '<' => min old n
            | some '>' => max old n
            | some '/' => if n = 0 then old else old / n * n
            | some '%' => if n = 0 then old else (old + n - 1) / n * n
            | _ => n
          let step (state : Nat × Machine) (path : String) : Nat × Machine :=
            let (status, m) := state
            if o.has 'c' && (m.standing path).isNone then state
            else
              let old := match m.tree.read (pathOf path) with
                | .ok bytes => textOfBytes bytes
                | .error _ => ""
              let wanted := size old.length
              let zeros := String.ofList (List.replicate (wanted - old.length) '\x00')
              match overwrite path ((old.take wanted).toString ++ zeros) m with
              | .ok m => (status, m)
              | .error e =>
                (1, m.warn ("cannot open '" ++ path ++ "' for writing: " ++ plainMessage e))
          let (status, m) := paths.foldl step (0, m)
          m.done status

/-! ## Permissions -/

/-- Whether an argument that begins like an option is a change of permissions. -/
def isModeArgument (arg : String) : Bool :=
  match arg.toList with
  | '-' :: c :: cs => (c :: cs).all "rwxXstugoa,+-=01234567".toList.contains
  | _ => false

/-- Permissions as the letters of a listing. -/
def modeLetters (mode : Mode) : String :=
  let three (bits : Nat) (special : Bool) (on off : Char) : List Char :=
    [if bits.testBit 2 then 'r' else '-', if bits.testBit 1 then 'w' else '-',
      if special then if bits.testBit 0 then on else off
      else if bits.testBit 0 then 'x' else '-']
  String.ofList (three (mode / 0o100 % 8) (mode.testBit 11) 's' 'S' ++
    three (mode / 0o10 % 8) (mode.testBit 10) 's' 'S' ++ three (mode % 8) (mode.testBit 9) 't' 'T')

/-- Changes the permissions of one file. -/
def chmodOne (o : Options) (change : Bool → Mode → Mode) (path : String) (m : Machine) :
    Nat × Machine :=
  match m.tree.lookup (pathOf path) with
  | .error e =>
    (1, if o.has 'f' then m
      else m.warn ("cannot access '" ++ path ++ "': " ++ plainMessage e))
  | .ok (location, node) =>
    let old := m.modeOf path
    let new := change node.isDirectory old
    let nodes := if o.has 'R' then subtree m.tree location else [(location, node)]
    let tree := nodes.foldl
      (fun tree (location, node) => match node with
        | .file content mode => tree.place location (.file content (change false mode))
        | _ => tree) m.tree
    let m := m.withTree tree
    let text (mode : Mode) : String := octalText 4 mode ++ " (" ++ modeLetters mode ++ ")"
    let m := if old = new then
        if o.has 'v' then m.print 1 ("mode of '" ++ path ++ "' retained as " ++ text new ++ "\n")
        else m
      else if o.has 'v' || o.has 'c' then
        m.print 1 ("mode of '" ++ path ++ "' changed from " ++ text old ++ " to " ++ text new ++
          "\n")
      else m
    (0, m)

/-- Changes the permissions of files. -/
def chmod : Builtin := fun args m =>
  let (modes, others) := args.partition isModeArgument
  withTable
    { flags := "cfvR", valued := "C", mixed := true, badStatus := 1
      long := [("changes", 'c'), ("quiet", 'f'), ("silent", 'f'), ("verbose", 'v'),
        ("recursive", 'R'), ("reference", 'C')] }
    (fun o m =>
      let apply (change : Bool → Mode → Mode) (paths : List String) (m : Machine) :
          Flow × Machine :=
        let (status, m) := paths.foldl
          (fun (state : Nat × Machine) path =>
            let (failed, m) := chmodOne o change path state.2
            (max state.1 failed, m)) (0, m)
        m.done status
      match o.value? 'C' with
      | some path =>
        match m.tree.lookup (pathOf path) with
        | .error e =>
          m.report ("failed to get attributes of '" ++ path ++ "': " ++ plainMessage e) 1
        | .ok _ => apply (fun _ _ => m.modeOf path) o.operands m
      | none =>
        match modes, o.operands with
        | [], [] => m.misuse "missing operand"
        | [], text :: paths | text :: _, paths =>
          if paths.isEmpty then m.misuse ("missing operand after '" ++ text ++ "'")
          else if (changedMode? false m.mask text 0).isNone then
            m.misuse ("invalid mode: '" ++ text ++ "'")
          else apply (fun isDirectory mode =>
            (changedMode? isDirectory m.mask text mode).getD mode) paths m) others m

/-- Copies files and sets their permissions, or makes directories. -/
def install : Builtin :=
  withTable
    { flags := "bcCdDpsTv", valued := "gmotS", mixed := true, badStatus := 1
      long := [("directory", 'd'), ("mode", 'm'), ("target-directory", 't'), ("verbose", 'v')] }
    fun o m =>
      let mode := ((o.value? 'm').bind fun text => changedMode? false 0 text 0).getD 0o755
      if o.has 'd' then
        if o.operands.isEmpty then m.misuse "missing file operand"
        else mkdir ("-p" :: "--" :: o.operands) m
      else match transfers o m with
      | .error complain => complain m
      | .ok pairs =>
        let (status, m) := pairs.foldl
          (fun (state : Nat × Machine) (source, target) =>
            let (status, m) := state
            match m.tree.lookup (pathOf source) with
            | .error e => (1, m.warn ("cannot stat '" ++ source ++ "': " ++ plainMessage e))
            | .ok (_, .directory) => (1, m.warn ("omitting directory '" ++ source ++ "'"))
            | .ok _ =>
              let m := if o.has 'D' then
                  (mkdir ["-p", "--", directoryName target] m).2
                else m
              let (failed, m) := copyFile o source target m
              (max status failed, if failed = 0 then m.setMode target mode else m)) (0, m)
        m.done status

/-- Makes files or directories under new names. -/
def mktemp : Builtin :=
  withTable
    { flags := "dquVt", valued := "p", mixed := true, badStatus := 1
      long := [("directory", 'd'), ("quiet", 'q'), ("dry-run", 'u'), ("tmpdir", 't')] }
    fun o m =>
      let directory := (o.value? 'p').getD (if o.operands.isEmpty || o.has 't' then "/tmp" else "")
      let template := o.operands.head?.getD "tmp.XXXXXXXXXX"
      let marks := (template.toList.reverse.takeWhile (· = 'X')).length
      if marks < 3 then
        m.report ("too few X's in template '" ++ template ++ "'") 1
      else
        let stem := (template.dropEnd marks).toString
        let name (n : Nat) : String :=
          let digits := toString n
          let text := stem ++ String.ofList (List.replicate (marks - digits.length) 'a') ++ digits
          if directory.isEmpty then text else below directory text
        let path := ((List.range 1000).map name).find? fun path => (m.standing path).isNone
        let path := path.getD (name 0)
        let made := if o.has 'u' then .ok m
          else if o.has 'd' then makeDirectory path m
          else (m.openOutput path true).map Prod.snd
        match made with
        | .ok m =>
          let m := if o.has 'd' then m else m.setMode path 0o600
          (m.print 1 (path ++ "\n")).done 0
        | .error e =>
          m.report ("failed to create file via template '" ++
            (if directory.isEmpty then template else below directory template) ++ "': " ++
            plainMessage e) 1

end SmellRefactor.Shell
