import SmellRefactor.Shell.Utility.Basic

/-!
# Programs about paths

Taking paths apart, and telling where they lead.  There are no links, so the path that a link holds
is never found.
-/

namespace SmellRefactor.Shell

/-- The text without the slashes at its end. -/
def withoutSlashes (text : List Char) : List Char := (text.reverse.dropWhile (· = '/')).reverse

/-- The last part of a path. -/
def baseName (path : String) : String :=
  let text := withoutSlashes path.toList
  if text.isEmpty then if path.isEmpty then "" else "/"
  else String.ofList (text.reverse.takeWhile (· ≠ '/')).reverse

/-- The path without its last part. -/
def directoryName (path : String) : String :=
  let text := withoutSlashes path.toList
  if text.isEmpty then if path.isEmpty then "." else "/"
  else
    let above := text.reverse.dropWhile (· ≠ '/')
    if above.isEmpty then "."
    else
      let above := withoutSlashes above.reverse
      if above.isEmpty then "/" else String.ofList above

/-- The path of something below a directory. -/
def below (directory name : String) : String :=
  if directory.endsWith "/" then directory ++ name else directory ++ "/" ++ name

/-- A name without an ending, unless it is nothing else. -/
def withoutEnding (ending name : String) : String :=
  if !ending.isEmpty && name ≠ ending && name.endsWith ending then
    (name.dropEnd ending.length).toString
  else name

/-- Writes the last parts of paths. -/
def basename : Builtin :=
  withTable
    { flags := "az", valued := "s", mixed := false, badStatus := 1
      long := [("multiple", 'a'), ("suffix", 's'), ("zero", 'z')] }
    fun o m =>
      let stop := if o.has 'z' then "\x00" else "\n"
      let show_ (ending : String) (paths : List String) : Flow × Machine :=
        (m.print 1 (String.join (paths.map fun path =>
          withoutEnding ending (baseName path) ++ stop))).done 0
      if o.operands.isEmpty then m.misuse "missing operand"
      else if o.has 'a' || o.has 's' then show_ ((o.value? 's').getD "") o.operands
      else match o.operands with
      | _ :: _ :: extra :: _ => m.misuse ("extra operand '" ++ extra ++ "'")
      | path :: rest => show_ (rest.head?.getD "") [path]
      | [] => m.done 0

/-- Writes paths without their last parts. -/
def dirname : Builtin :=
  withTable
    { flags := "z", valued := "", mixed := true, badStatus := 1, long := [("zero", 'z')] }
    fun o m =>
      if o.operands.isEmpty then m.misuse "missing operand"
      else
        let stop := if o.has 'z' then "\x00" else "\n"
        (m.print 1 (String.join (o.operands.map (directoryName · ++ stop)))).done 0

/-- The path from the root to where a path leads, of which the last part need not be there. -/
def wholePath? (m : Machine) (complete : Bool) (path : String) : Except SystemError String := do
  let location ← if complete then
      if path.isEmpty then throw .notFound else pure (← m.tree.lookup (pathOf path)).1
    else do
      let location ← m.tree.locate (pathOf path)
      m.tree.enter (FileTree.above location)
      pure location
  return encoded (FileTree.absolute location).text

/-- The names in a location, with the parts `.` and `..` taken away. -/
def simplified (m : Machine) (path : String) : String :=
  let location := (pathOf path).components.foldl
    (fun (location : Location) c => match c with
      | .root => []
      | .current => location
      | .parent => location.dropLast
      | .named name => location ++ [name]) m.tree.current
  encoded (FileTree.absolute location).text

/-- Writes what a link holds, or where a path leads. -/
def readlink : Builtin :=
  withTable
    { flags := "femnqsvz", valued := "", mixed := true, badStatus := 1
      long := [("canonicalize", 'f'), ("canonicalize-existing", 'e'),
        ("canonicalize-missing", 'm'), ("no-newline", 'n'), ("quiet", 'q'), ("silent", 's'),
        ("verbose", 'v'), ("zero", 'z')] }
    fun o m =>
      if o.operands.isEmpty then m.misuse "missing operand"
      else
        let stop := if o.has 'n' && o.operands.length = 1 then "" else "\n"
        let step (state : Nat × Machine) (path : String) : Nat × Machine :=
          let (status, m) := state
          let found : Except SystemError String :=
            if o.has 'm' then .ok (simplified m path)
            else if o.has 'f' || o.has 'e' then wholePath? m (o.has 'e') path
            else match m.tree.lookup (pathOf path) with
              | .ok _ => .error .invalidArgument
              | .error e => .error e
          match found with
          | .ok text => (status, m.print 1 (text ++ stop))
          | .error e => (1, if o.has 'v' then m.warn (aboutFile path e) else m)
        let (status, m) := o.operands.foldl step (0, m)
        m.done status

/-- Writes where paths lead. -/
def realpath : Builtin :=
  withTable
    { flags := "eEmLPqsz", valued := "", mixed := true, badStatus := 1
      long := [("canonicalize-existing", 'e'), ("canonicalize-missing", 'm'), ("quiet", 'q'),
        ("strip", 's'), ("no-symlinks", 's'), ("zero", 'z')] }
    fun o m =>
      if o.operands.isEmpty then m.misuse "missing operand"
      else
        let step (state : Nat × Machine) (path : String) : Nat × Machine :=
          let (status, m) := state
          match if o.has 'm' then .ok (simplified m path) else wholePath? m (o.has 'e') path with
          | .ok text => (status, m.print 1 (text ++ if o.has 'z' then "\x00" else "\n"))
          | .error e => (1, if o.has 'q' then m else m.warn (aboutFile path e))
        let (status, m) := o.operands.foldl step (0, m)
        m.done status

/-- Writes the path of the current directory. -/
def pwdProgram : Builtin :=
  withTable
    { flags := "LP", valued := "", mixed := true, badStatus := 1, long := [] }
    fun o m =>
      let m := if o.operands.isEmpty then m else m.warn "ignoring non-option arguments"
      (m.print 1 (m.directory ++ "\n")).done 0

end SmellRefactor.Shell
