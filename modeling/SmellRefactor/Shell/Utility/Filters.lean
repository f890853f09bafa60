import SmellRefactor.Shell.Utility.Basic

/-!
# Programs that pass files on

Whole files, their beginnings and ends, their lines in another order or with numbers, and how much
they hold.  With no file named, they take the input.
-/

namespace SmellRefactor.Shell

/-! ## Whole files -/

/-- A character in visible form, other than line ends and, unless they are wanted, tabs. -/
def visible (tabs : Bool) (c : Char) : List Char :=
  let n := c.toNat
  let low (n : Nat) : List Char :=
    if n < 32 then ['^', Char.ofNat (n + 64)] else if n = 127 then ['^', '?'] else [Char.ofNat n]
  if c = '\n' || (c = '\t' && !tabs) then [c]
  else if n < 128 then low n
  else ['M', '-'] ++ low (n - 128)

/-- A number at the right end of a field of some width. -/
def paddedLeft (width : Nat) (text : String) : String :=
  String.ofList (List.replicate (width - text.length) ' ') ++ text

/-- Lines as `cat` shows them; the state is the number of the next line, and whether the line before
was empty. -/
def catLines (o : Options) (lines : List String) (first : Nat) : List String × Nat :=
  let number := o.has 'n' || o.has 'b'
  let showEnds := o.has 'E' || o.has 'e' || o.has 'A'
  let showTabs := o.has 'T' || o.has 't' || o.has 'A'
  let showRest := o.has 'v' || o.has 'e' || o.has 't' || o.has 'A'
  let step (state : List String × Nat × Bool) (line : String) : List String × Nat × Bool :=
    let (shown, n, blank) := state
    let isBlank : Bool := line = "\n"
    if o.has 's' && blank && isBlank then (shown, n, true)
    else
      let counted := number && !(o.has 'b' && isBlank)
      let text := if showRest then String.ofList (line.toList.flatMap (visible showTabs))
        else if showTabs then line.replace "\t" "^I" else line
      let text := if showEnds && text.endsWith "\n" then (text.dropEnd 1).toString ++ "$\n" else text
      let text := if counted then paddedLeft 6 (toString n) ++ "\t" ++ text else text
      (text :: shown, if counted then n + 1 else n, isBlank)
  let (shown, n, _) := lines.foldl step ([], first, false)
  (shown.reverse, n)

/-- Writes files to the output. -/
def cat : Builtin :=
  withTable
    { flags := "AbeEnstTuv", valued := "", mixed := true, badStatus := 1
      long := [("number", 'n'), ("number-nonblank", 'b'), ("show-all", 'A'), ("show-ends", 'E'),
        ("show-nonprinting", 'v'), ("show-tabs", 'T'), ("squeeze-blank", 's')] }
    fun o m =>
      let plain := o.given.all fun entry => entry.1 = 'u'
      let (status, _, m) := o.files.foldl
        (fun (state : Nat × Nat × Machine) path =>
          let (status, n, m) := state
          if path = "-" && (m.channel? 0).isNone then
            (1, n, (m.warn "-: Bad file descriptor").warn
              "closing standard input: Bad file descriptor")
          else match m.openInput path with
          | .error e => (1, n, m.warn (aboutFile path e))
          | .ok (text, m) =>
            if plain then (status, n, m.print 1 text)
            else
              let (lines, n) := catLines o (fullLines text) n
              (status, n, m.print 1 (String.join lines))) (0, 1, m)
      m.done status

/-- Writes the input to the output and to files. -/
def tee : Builtin :=
  withTable
    { flags := "aip", valued := "", mixed := true, badStatus := 1
      long := [("append", 'a'), ("ignore-interrupts", 'i')] }
    fun o m =>
      let text := m.input
      let m := m.drain.print 1 text
      let refused := m.refused
      let step (state : Nat × Machine) (path : String) : Nat × Machine :=
        let (status, m) := state
        match m.openOutput path (o.has 'a') with
        | .error e => (1, m.warn (aboutFile path e))
        | .ok (channel, m) =>
          let m := { m with refused := none }.deliver channel (bytesOfText text)
          match m.refused with
          | none => (status, m)
          | some e => (1, { m with refused := none }.warn (aboutFile path e))
      let (status, m) := o.operands.foldl step (0, m)
      { m with refused := refused }.done status

/-! ## Beginnings and ends -/

/-- How much of a file is wanted. -/
structure Portion where
  /-- Whether bytes are counted, or else lines. -/
  bytes : Bool
  count : Nat
  /-- Whether the count says how much is left out at the other end. -/
  without : Bool

namespace Portion

/-- The wanted beginning of a text, and the rest. -/
def first (p : Portion) (text : String) : String × String :=
  if p.bytes then
    let n := if p.without then text.length - p.count else p.count
    ((text.take n).toString, (text.drop n).toString)
  else
    let lines := fullLines text
    let n := if p.without then lines.length - p.count else p.count
    (String.join (lines.take n), String.join (lines.drop n))

/-- The wanted end of a text. -/
def last (p : Portion) (text : String) : String :=
  if p.bytes then
    (text.drop (if p.without then p.count - 1 else text.length - p.count)).toString
  else
    let lines := fullLines text
    String.join (lines.drop (if p.without then p.count - 1 else lines.length - p.count))

/-- Reads how much is wanted: a number, and a sign that counts from the other end. -/
def read? (mark : Char) (bytes : Bool) (text : String) : Option Portion :=
  match text.toList with
  | c :: rest =>
    if c = mark then (sizeOf? (String.ofList rest)).map fun n => ⟨bytes, n, true⟩
    else if c = '-' || c = '+' then (sizeOf? (String.ofList rest)).map fun n => ⟨bytes, n, false⟩
    else (sizeOf? text).map fun n => ⟨bytes, n, false⟩
  | [] => none

end Portion

/-- Arguments in which a first one such as `-5` is written as an option with a value. -/
def withCount (marks : List Char) : List String → List String
  | arg :: rest =>
    match arg.toList with
    | mark :: c :: cs =>
      if marks.contains mark && c.isDigit && cs.all Char.isDigit then
        let count := String.ofList (c :: cs)
        "-n" :: (if mark = '+' then "+" ++ count else count) :: rest
      else arg :: rest
    | _ => arg :: rest
  | [] => []

/-- The options of the programs that write beginnings and ends. -/
def portionTable : OptionTable :=
  { flags := "qvzfF", valued := "nc", mixed := true, badStatus := 1
    long := [("lines", 'n'), ("bytes", 'c'), ("quiet", 'q'), ("silent", 'q'), ("verbose", 'v'),
      ("follow", 'f'), ("zero-terminated", 'z')] }

/-- Writes portions of files, each with a title if there are several of them. -/
def writePortions (marks : List Char) (mark : Char)
    (write : Portion → Bool → String → Machine → Machine) : Builtin := fun args m =>
  withTable portionTable
    (fun o m =>
      let portion : Except String Portion :=
        match o.last? ['n', 'c'] with
        | none => .ok ⟨false, 10, false⟩
        | some letter =>
          let text := (o.value? letter).getD ""
          match Portion.read? mark (letter = 'c') text with
          | some p => .ok p
          | none => .error ("invalid number of " ++ (if letter = 'c' then "bytes" else "lines") ++
              ": '" ++ text ++ "'")
      match portion with
      | .error text => m.report text 1
      | .ok portion =>
        let titled := (1 < o.operands.length && !o.has 'q') || o.has 'v'
        let step (state : Nat × Bool × Machine) (path : String) : Nat × Bool × Machine :=
          let (status, isFirst, m) := state
          let shown := if path = "-" then "standard input" else path
          let title := (if isFirst then "" else "\n") ++ "==> " ++ shown ++ " <==\n"
          if path = "-" then
            (status, false, write portion true m.input (if titled then m.print 1 title else m))
          else match m.openInput path with
          | .ok (text, m) =>
            (status, false, write portion false text (if titled then m.print 1 title else m))
          | .error .isDirectory =>
            (1, false, (if titled then m.print 1 title else m).warn
              ("error reading '" ++ path ++ "': Is a directory"))
          | .error e =>
            (1, isFirst, m.warn
              ("cannot open '" ++ path ++ "' for reading: " ++ plainMessage e))
        let (status, _, m) := o.files.foldl step (0, true, m)
        m.done status) (withCount marks args) m

/-- Writes the beginnings of files. -/
def head : Builtin :=
  writePortions ['-'] '-' fun portion isInput text m =>
    let (wanted, rest) := portion.first text
    (if isInput then m.readUpTo rest else m).print 1 wanted

/-- Writes the ends of files. -/
def tail : Builtin :=
  writePortions ['-', '+'] '+' fun portion isInput text m =>
    (if isInput then m.drain else m).print 1 (portion.last text)

/-! ## Sizes -/

/-- The number of words in a text. -/
def countWords (text : String) : Nat :=
  (text.toList.foldl
    (fun (state : Nat × Bool) c =>
      let blank := c = ' ' || ('\t' ≤ c && c ≤ '\r')
      (if state.2 && !blank then state.1 + 1 else state.1, blank)) (0, true)).1

/-- The width of the widest line of a text, in which tabs lead to the next place that eight divides.
-/
def widestLine (text : String) : Nat :=
  let width (line : String) : Nat :=
    line.toList.foldl (fun n c => if c = '\t' then (n / 8 + 1) * 8
      else if ' ' ≤ c && c ≤ '~' then n + 1 else n) 0
  ((text.splitOn "\n").map width).foldl max 0

/-- The sizes of a text that are wanted, in their fixed order. -/
def sizesOf (o : Options) (text : String) : List Nat :=
  let all := !(o.has 'l' || o.has 'w' || o.has 'c' || o.has 'm' || o.has 'L')
  (if all || o.has 'l' then [text.toList.count '\n'] else []) ++
    (if all || o.has 'w' then [countWords text] else []) ++
    (if o.has 'm' then [text.length] else []) ++
    (if all || o.has 'c' then [text.length] else []) ++
    (if o.has 'L' then [widestLine text] else [])

/-- Tells the sizes of files. -/
def wc : Builtin :=
  withTable
    { flags := "lwcmL", valued := "", mixed := true, badStatus := 1
      long := [("lines", 'l'), ("words", 'w'), ("bytes", 'c'), ("chars", 'm'),
        ("max-line-length", 'L')] }
    fun o m =>
      let isRegular (path : String) : Bool :=
        if path = "-" then (m.source? 0).any Source.seekable
        else match m.standing path with
        | some (_, .directory) => false
        | some (_, .device _) => false
        | _ => true
      let whole := o.files.foldl (fun n path => n + match m.standing path with
        | some (_, .file content _) => content.size
        | _ => if path = "-" then m.input.length else 0) 0
      let rowSize := (sizesOf o "").length
      let width :=
        if o.files.length = 1 && rowSize = 1 then 1
        else if o.files.all isRegular then (toString whole).length
        else 7
      let row (sizes : List Nat) (name : String) : String :=
        " ".intercalate (sizes.map (fun n => paddedLeft width (toString n)) ++
          if name.isEmpty then [] else [name]) ++ "\n"
      let add (a b : List Nat) : List Nat := List.zipWith (· + ·) a b
      let step (state : Nat × List Nat × Machine) (path : String) : Nat × List Nat × Machine :=
        let (status, total, m) := state
        let shown := if o.operands.isEmpty then "" else shownName path
        match m.openInput path with
        | .ok (text, m) =>
          let sizes := sizesOf o text
          (status, add total sizes, m.print 1 (row sizes shown))
        | .error e =>
          let m := m.warn (aboutFile path e)
          (1, total, if e = .isDirectory then m.print 1 (row (sizesOf o "") shown) else m)
      let (status, total, m) := o.files.foldl step (0, sizesOf o "", m)
      (if 1 < o.files.length then m.print 1 (row total "total") else m).done status

/-! ## Lines in another form -/

/-- Writes the lines of files in the opposite order. -/
def tac : Builtin :=
  withTable
    { flags := "br", valued := "s", mixed := true, badStatus := 1, long := [("separator", 's')] }
    fun o m =>
      let complaint (path : String) (e : SystemError) : String :=
        if e = .isDirectory then shownName path ++ ": read error: Is a directory"
        else "failed to open '" ++ path ++ "' for reading: " ++ plainMessage e
      let (status, m) := readFiles complaint
        (fun _ text m => m.print 1 (String.join (fullLines text).reverse)) 1 o.files m
      m.done status

/-- Writes lines with their characters in the opposite order. -/
def rev : Builtin := fun args m =>
  let (status, m) := readFiles
    (fun path e => "cannot open " ++ path ++ ": " ++ plainMessage e)
    (fun _ text m => m.print 1 (String.join ((fullLines text).map fun line =>
      let chars := line.toList
      let body := chars.takeWhile (· ≠ '\n')
      String.ofList (body.reverse ++ chars.drop body.length)))) 1
    (if args.isEmpty then ["-"] else args) m
  m.done status

/-- Writes lines with their numbers. -/
def nl : Builtin :=
  withTable
    { flags := "p", valued := "bhfinsvwld", mixed := true, badStatus := 1, long := [] }
    fun o m =>
      let style := (o.value? 'b').getD "t"
      let width := ((o.value? 'w').bind String.toNat?).getD 6
      let start := ((o.value? 'v').bind String.toNat?).getD 1
      let increment := ((o.value? 'i').bind String.toNat?).getD 1
      let mark := (o.value? 's').getD "\t"
      let (status, text, m) := readTogether aboutFile 1 o.files m
      let step (state : List String × Nat) (line : String) : List String × Nat :=
        if style = "a" || (style = "t" && !line.isEmpty) then
          ((paddedLeft width (toString state.2) ++ mark ++ line) :: state.1, state.2 + increment)
        else
          let margin := if line.isEmpty then width + 1 else width + mark.length
          ((String.ofList (List.replicate margin ' ') ++ line) :: state.1, state.2)
      let (lines, _) := (linesOf text).foldl step ([], start)
      (m.print 1 (unlines lines.reverse)).done status

/-- The pieces of a text that have at most so many characters. -/
def chunks (width : Nat) : Nat → List Char → List (List Char)
  | 0, text => [text]
  | fuel + 1, text =>
    if text.length ≤ width || width = 0 then [text]
    else text.take width :: chunks width fuel (text.drop width)

/-- The pieces of a text that have at most so many characters, cut behind blanks where they have
any. -/
def blankChunks (width : Nat) : Nat → List Char → List (List Char)
  | 0, text => [text]
  | fuel + 1, text =>
    if text.length ≤ width || width = 0 then [text]
    else
      let behind := ((text.take width).reverse.dropWhile fun c => !(c = ' ' || c = '\t')).length
      let size := if behind = 0 then width else behind
      text.take size :: blankChunks width fuel (text.drop size)

/-- Writes lines that are too long as several lines. -/
def fold : Builtin := fun args m =>
  let args := args.map fun arg =>
    match arg.toList with
    | '-' :: c :: cs => if (c :: cs).all Char.isDigit then "-w" ++ String.ofList (c :: cs) else arg
    | _ => arg
  withTable
    { flags := "bs", valued := "w", mixed := true, badStatus := 1
      long := [("width", 'w'), ("spaces", 's'), ("bytes", 'b')] }
    (fun o m =>
      let given := (o.value? 'w').getD "80"
      match given.toNat? with
      | none => m.report ("invalid number of columns: '" ++ given ++ "'") 1
      | some 0 =>
        m.report ("invalid number of columns: '" ++ given ++ "': Numerical result out of range") 1
      | some width =>
        let cut (line : List Char) : List (List Char) :=
          if o.has 's' then blankChunks width line.length line else chunks width line.length line
        let folded (line : String) : String :=
          let chars := line.toList
          let body := chars.takeWhile (· ≠ '\n')
          "\n".intercalate ((cut body).map String.ofList) ++ String.ofList (chars.drop body.length)
        let (status, m) := readFiles aboutFile
          (fun _ text m => m.print 1 (String.join ((fullLines text).map folded))) 1 o.files m
        m.done status) args m

/-- The rows of lines side by side. -/
def rowsOf : Nat → List (List String) → List (List String)
  | 0, _ => []
  | fuel + 1, columns =>
    if columns.all List.isEmpty then []
    else columns.map (fun lines => lines.head?.getD "") :: rowsOf fuel (columns.map List.tail)

/-- Joins texts with the separators of a list, which is used again and again. -/
def joinCycling (separators : List String) (texts : List String) : String :=
  String.join (texts.mapIdx fun i text =>
    (if i = 0 || separators.isEmpty then ""
      else (separators[(i - 1) % separators.length]?).getD "") ++ text)

/-- The columns of files, where those that are read from the input share its lines in turn. -/
def dealt (paths : List String) (columns : List (List String)) : List (List String) :=
  let count := paths.count "-"
  let lines := ((paths.zip columns).lookup "-").getD []
  let (dealt, _) := (paths.zip columns).foldl
    (fun (state : List (List String) × Nat) (path, column) =>
      if path = "-" then
        let own := (lines.zipIdx.filter fun entry => entry.2 % count = state.2).map Prod.fst
        (state.1 ++ [own], state.2 + 1)
      else (state.1 ++ [column], state.2)) ([], 0)
  if 1 < count && paths.length = columns.length then dealt else columns

/-- Writes the lines of files side by side. -/
def paste : Builtin :=
  withTable
    { flags := "sz", valued := "d", mixed := true, badStatus := 1
      long := [("serial", 's'), ("delimiters", 'd')] }
    fun o m =>
      let separators := (((o.value? 'd').getD "\t").replace "\\n" "\n").replace "\\t" "\t"
      let separators := (separators.toList.map Char.toString)
      let step (state : Nat × List (List String) × Machine) (path : String) :
          Nat × List (List String) × Machine :=
        let (status, columns, m) := state
        match m.openInput path with
        | .ok (text, m) => (status, columns ++ [linesOf text], m)
        | .error e => (1, columns, m.warn (aboutFile path e))
      let (status, columns, m) := o.files.foldl step (0, [], m)
      let columns := if o.has 's' then columns else dealt o.files columns
      let rows := if o.has 's' then columns
        else rowsOf ((columns.map List.length).foldl max 0 + 1) columns
      (m.print 1 (unlines (rows.map (joinCycling separators)))).done status

/-- The number of bytes that `yes` writes.  It would go on for ever, so this is more than any reader
behind it takes. -/
def yesLimit : Nat := 131072

/-- Writes a line again and again. -/
def yes : Builtin := fun args m =>
  let line := (if args.isEmpty then "y" else " ".intercalate args) ++ "\n"
  let count := yesLimit / line.utf8ByteSize + 1
  (m.print 1 (String.join (List.replicate count line))).done 0

end SmellRefactor.Shell
