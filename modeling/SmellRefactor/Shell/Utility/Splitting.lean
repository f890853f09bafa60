import SmellRefactor.Shell.Utility.Basic

/-!
# Programs that take files apart

`split` writes the pieces of a file to files of their own, and `dd` copies blocks of a file.
-/

namespace SmellRefactor.Shell

/-! ## Pieces -/

/-- The ending of a name, made up from so many digits out of some marks. -/
def suffixOf (marks : List Char) (size n : Nat) : String :=
  let step (state : List Char × Nat) (_ : Nat) : List Char × Nat :=
    ((marks[state.2 % marks.length]?).getD 'a' :: state.1, state.2 / marks.length)
  String.ofList ((List.range size).foldl step ([], n)).1

/-- The pieces of a text with so many members, which are lines or characters. -/
def piecesOfText (lines : Bool) (size : Nat) (text : String) : List String :=
  let parts := if lines then fullLines text else text.toList.map Char.toString
  (List.range ((parts.length + size - 1) / size)).map fun i =>
    String.join ((parts.drop (i * size)).take size)

/-- Writes the pieces of a file to files of their own. -/
def split : Builtin := fun args m =>
  let args := args.map fun arg =>
    match arg.toList with
    | '-' :: c :: cs => if (c :: cs).all Char.isDigit then "-l" ++ String.ofList (c :: cs) else arg
    | _ => arg
  withTable
    { flags := "dxeu=", valued := "lbaS", mixed := true, badStatus := 1
      long := [("lines", 'l'), ("bytes", 'b'), ("suffix-length", 'a'), ("numeric-suffixes", 'd'),
        ("hex-suffixes", 'x'), ("additional-suffix", 'S')] }
    (fun o m =>
      let lines := o.last? ['l', 'b'] != some 'b'
      let given := ((o.last? ['l', 'b']).bind o.value?).getD "1000"
      match o.operands, sizeOf? given, ((o.value? 'a').getD "2").toNat? with
      | _ :: _ :: extra :: _, _, _ => m.misuse ("extra operand '" ++ extra ++ "'")
      | _, none, _ | _, some 0, _ =>
        m.report ("invalid number of " ++ (if lines then "lines" else "bytes") ++ ": '" ++ given ++
          "'") 1
      | _, _, none => m.report ("invalid suffix length: '" ++ (o.value? 'a').getD "" ++ "'") 1
      | operands, some size, some width =>
        let path := operands.headD "-"
        let start := (operands.drop 1).headD "x"
        match m.openInput path with
        | .error .isDirectory => m.report (shownName path ++ ": Is a directory") 1
        | .error e => m.report ("cannot open '" ++ path ++ "' for reading: " ++ plainMessage e) 1
        | .ok (text, m) =>
          let marks := (if o.has 'd' then "0123456789" else if o.has 'x' then "0123456789abcdef"
            else "abcdefghijklmnopqrstuvwxyz").toList
          let step (state : Option SystemError × Machine) (entry : String × Nat) :
              Option SystemError × Machine :=
            match state.1 with
            | some _ => state
            | none =>
              let name := start ++ suffixOf marks width entry.2 ++ (o.value? 'S').getD ""
              match overwrite name entry.1 state.2 with
              | .ok m => (none, m)
              | .error e => (some e, state.2.warn (name ++ ": " ++ plainMessage e))
          let (failure, m) := (piecesOfText lines size text).zipIdx.foldl step (none, m)
          m.done (if failure.isSome then 1 else 0)) args m

/-! ## Blocks -/

/-- What `dd` is told, by the names of its operands. -/
structure Copying where
  settings : List (String × String)

namespace Copying

/-- The names of the settings. -/
def names : List String :=
  ["if", "of", "bs", "ibs", "obs", "cbs", "count", "skip", "seek", "iseek", "oseek", "conv",
    "status", "iflag", "oflag"]

/-- The value of a setting. -/
def value? (c : Copying) (name : String) : Option String := c.settings.lookup name

/-- The parts of a setting that is a list. -/
def parts (c : Copying) (name : String) : List String :=
  ((c.value? name).map fun text => text.splitOn ",").getD []

/-- The number that a setting has. -/
def number (c : Copying) (name : String) (default : Nat) : Except String Nat :=
  match c.value? name with
  | none => .ok default
  | some text => match sizeOf? (if text.endsWith "c" then (text.dropEnd 1).toString else text) with
    | some n => .ok n
    | none => .error ("invalid number: '" ++ text ++ "'")

/-- A text changed as the settings say. -/
def converted (c : Copying) (text : String) : String :=
  let wanted := c.parts "conv"
  if wanted.contains "ucase" then text.map Char.toUpper
  else if wanted.contains "lcase" then text.map Char.toLower
  else text

/-- Reads the operands; the first one that is none is refused. -/
def read (args : List String) : Except String Copying := do
  let settings ← args.mapM fun arg =>
    let name := String.ofList (arg.toList.takeWhile (· ≠ '='))
    if arg.contains '=' && names.contains name then
      .ok (name, (arg.drop (name.length + 1)).toString)
    else .error ("unrecognized operand '" ++ arg ++ "'")
  return ⟨settings.reverse⟩

end Copying

/-- How many whole and partial blocks a text has. -/
def recordsOf (size : Nat) (text : String) : String :=
  toString (text.length / size) ++ "+" ++ toString (if text.length % size = 0 then 0 else 1)

/-- Copies blocks of a file. -/
def dd : Builtin := fun args m =>
  match Copying.read args with
  | .error text => m.misuse text
  | .ok c =>
    let sizes : Except String (Nat × Nat × Nat × Nat × Nat) := do
      let both ← c.number "bs" 512
      let reading ← if (c.value? "bs").isSome then .ok both else c.number "ibs" 512
      let writing ← if (c.value? "bs").isSome then .ok both else c.number "obs" 512
      let skipped ← c.number "skip" 0
      let sought ← c.number "seek" 0
      let count ← c.number "count" (1 <<< 40)
      if reading = 0 || writing = 0 then throw "invalid number: '0'"
      return (reading, writing, skipped, sought, count)
    match sizes with
    | .error text => m.report text 1
    | .ok (reading, writing, skipped, sought, count) =>
      let path := (c.value? "if").getD "-"
      match m.openInput path with
      | .error .isDirectory => m.report ("error reading '" ++ path ++ "': Is a directory") 1
      | .error e => m.report ("failed to open '" ++ path ++ "': " ++ plainMessage e) 1
      | .ok (text, m) =>
        let taken := ((text.drop (skipped * reading)).take (count * reading)).toString
        let written := c.converted taken
        let place := sought * writing
        let target := (c.value? "of").getD ""
        let before := match m.standing target with
          | some (_, .file content _) => textOfBytes content
          | _ => ""
        let kept := (before.take place).toString
        let filler := String.ofList (List.replicate (place - kept.length) '\x00')
        let rest := if (c.parts "conv").contains "notrunc" then
            (before.drop (place + written.length)).toString
          else ""
        let outcome : Except SystemError Machine :=
          if (c.value? "of").isNone then .ok (m.print 1 written)
          else overwrite target (kept ++ filler ++ written ++ rest) m
        match outcome with
        | .error e => m.report ("failed to open '" ++ target ++ "': " ++ plainMessage e) 1
        | .ok m =>
          let status := (c.value? "status").getD ""
          let m := if status = "none" then m
            else m.complain (recordsOf reading taken ++ " records in\n" ++
              recordsOf writing written ++ " records out\n")
          let m := if status = "none" || status = "noxfer" then m
            else m.complain (toString written.length ++ " bytes copied, 0 s, Infinity B/s\n")
          m.done 0

end SmellRefactor.Shell
