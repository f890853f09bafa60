import SmellRefactor.Shell.Utility.Listing

/-!
# Comparing files

`cmp` finds the first byte in which two files differ.  `diff` tells which lines have to be taken out
of one file and put into it to get the other one: as few as possible, and where there is a choice,
as late as possible.
-/

namespace SmellRefactor.Shell

/-! ## Bytes -/

/-- The place of the first difference of two texts, counted from zero, and whether one of them has
come to its end there: the first one, or the second one. -/
def firstDifference : Nat → List Char → List Char → Option (Nat × Ordering)
  | _, [], [] => none
  | n, [], _ :: _ => some (n, .lt)
  | n, _ :: _, [] => some (n, .gt)
  | n, a :: as, b :: bs => if a = b then firstDifference (n + 1) as bs else some (n, .eq)

/-- A text at the right end of a field of three columns. -/
def octalField (c : Char) : String :=
  let digits := Nat.toDigits 8 c.toNat
  String.ofList (List.replicate (3 - digits.length) ' ' ++ digits)

/-- Compares the texts of two files. -/
def compareTexts (o : Options) (first second : String) (a b : List Char) (m : Machine) :
    Flow × Machine :=
  match firstDifference 0 a b with
  | none => m.done 0
  | some (n, ending) =>
    let before := a.take n
    let line := before.count '\n' + 1
    let shorter := min a.length b.length
    let atEnd (path : String) (m : Machine) : Machine :=
      m.warn ("EOF on " ++ path ++
        (if shorter = 0 then " which is empty"
        else " after byte " ++ toString shorter ++
          (if o.has 'l' then ""
          else if before.getLast? = some '\n' then ", line " ++ toString (line - 1)
          else ", in line " ++ toString line)))
    let listed (m : Machine) : Machine :=
      let width := (toString (min a.length b.length)).length
      let rows := (a.zip b).zipIdx.filter fun (pair, _) => pair.1 ≠ pair.2
      m.print 1 (String.join (rows.map fun (pair, i) =>
        let place := toString (i + 1)
        String.ofList (List.replicate (width - place.length) ' ') ++ place ++ " " ++
          octalField pair.1 ++ " " ++ octalField pair.2 ++ "\n"))
    let m := if o.has 's' then m
      else if o.has 'l' then
        listed (match compare a.length b.length with
          | .lt => atEnd first m
          | .gt => atEnd second m
          | .eq => m)
      else match ending with
      | .lt => atEnd first m
      | .gt => atEnd second m
      | .eq =>
        let shown := (a[n]?).bind fun x => (b[n]?).map fun y =>
          " is " ++ octalField x ++ " " ++ x.toString ++ " " ++ octalField y ++ " " ++ y.toString
        m.print 1 (first ++ " " ++ second ++ " differ: " ++ (if o.has 'b' then "byte " else "char ")
          ++ toString (n + 1) ++ ", line " ++ toString line ++
          (if o.has 'b' then shown.getD "" else "") ++ "\n")
    m.done 1

/-- Points to the help of a program that puts its name before this, too. -/
def hintBehind (text : String) (m : Machine) : Flow × Machine :=
  ((m.warn text).warn ("Try '" ++ m.name ++ " --help' for more information.")).done 2

/-- Compares two files byte by byte. -/
def cmp : Builtin := fun args m =>
  let table : OptionTable :=
    { flags := "bls", valued := "in", mixed := true, badStatus := 2
      long := [("print-bytes", 'b'), ("verbose", 'l'), ("silent", 's'), ("quiet", 's'),
        ("bytes", 'n'), ("ignore-initial", 'i')] }
  match table.readAll args with
  | .error text => hintBehind text m
  | .ok o =>
    let portion (text : String) : List Char :=
      let chars := text.toList.drop (((o.value? 'i').bind sizeOf?).getD 0)
      match (o.value? 'n').bind sizeOf? with
      | some n => chars.take n
      | none => chars
    let refuse (path : String) (e : SystemError) : Flow × Machine :=
      (if o.has 's' then m else m.warn (path ++ ": " ++ plainMessage e)).done 2
    let run (first second : String) : Flow × Machine :=
      if first = second then
        match m.openInput first with
        | .error e => refuse first e
        | .ok (_, m) => m.done 0
      else match m.openInput first, m.openInput second with
      | .error e, _ => refuse first e
      | .ok _, .error e => refuse second e
      | .ok (a, _), .ok (b, _) =>
        compareTexts o first second (portion a) (portion b)
          (if first = "-" || second = "-" then m.drain else m)
    match o.operands with
    | [] => hintBehind ("missing operand after '" ++ m.name ++ "'") m
    | [first] => run first "-"
    | first :: second :: _ => run first second

/-! ## Lines -/

/-- What happens to a line. -/
inductive LineEdit where
  | keep (old new : String)
  | drop (line : String)
  | add (line : String)
deriving Repr

/-- The lengths of the longest common parts of a line with others behind it and the ends of a list,
given those of the lines behind it alone. -/
def commonRow (same : String → String → Bool) (line : String) : List String → List Nat → List Nat
  | y :: ys, p :: ps =>
    let row := commonRow same line ys ps
    (if same line y then ps.headD 0 + 1 else max p (row.headD 0)) :: row
  | _, _ => [0]

/-- The lengths of the longest common parts of the ends of two lists. -/
def commonTable (same : String → String → Bool) (b : List String) : List String → List (List Nat)
  | [] => [List.replicate (b.length + 1) 0]
  | x :: xs =>
    let table := commonTable same b xs
    commonRow same x b (table.headD []) :: table

/-- Goes from one list of lines to another, with lines taken out before others are put in. -/
def editsOf (same : String → String → Bool) : List String → List String → List (List Nat) →
    List LineEdit
  | [], b, _ => b.map .add
  | a, [], _ => a.map .drop
  | x :: a, y :: b, table =>
    if same x y then .keep x y :: editsOf same a b (table.tail.map List.tail)
    else
      let right := ((table.headD []).tail).headD 0
      let down := ((table.tail).headD []).headD 0
      if right ≤ down then .drop x :: editsOf same a (y :: b) table.tail
      else .add y :: editsOf same (x :: a) b (table.map List.tail)
termination_by a b => a.length + b.length

/-- Lines that are taken out of one file, and lines that are put in instead, with the number of
lines before them in both files. -/
structure LineChange where
  oldPlace : Nat
  dropped : List String
  newPlace : Nat
  added : List String
deriving Repr

/-- The changes in a row of edits, which stand behind so many lines.  `dropped` and `added` hold the
lines of a change that has begun, backwards. -/
def changesOf : Nat → Nat → List String → List String → List LineEdit → List LineChange
  | i, j, dropped, added, edits =>
    let done : List LineChange :=
      if dropped.isEmpty && added.isEmpty then []
      else [⟨i - dropped.length, dropped.reverse, j - added.length, added.reverse⟩]
    match edits with
    | [] => done
    | .keep _ _ :: rest => done ++ changesOf (i + 1) (j + 1) [] [] rest
    | .drop line :: rest => changesOf (i + 1) j (line :: dropped) added rest
    | .add line :: rest => changesOf i (j + 1) dropped (line :: added) rest

/-- Moves lines that are only taken out or only put in behind equal lines that follow. -/
def slide (same : String → String → Bool) : Nat → List LineEdit → List LineEdit
  | 0, edits => edits
  | fuel + 1, edits =>
    match edits with
    | .drop x :: rest =>
      let run := rest.takeWhile isDrop
      match rest.drop run.length with
      | .keep y z :: behind =>
        if same x y then
          .keep x z :: slide same fuel (run ++ .drop y :: behind)
        else (.drop x :: run) ++ .keep y z :: slide same fuel behind
      | other => (.drop x :: run) ++ (other.takeWhile isAdd) ++
          slide same fuel (other.dropWhile isAdd)
    | .add x :: rest =>
      let run := rest.takeWhile isAdd
      match rest.drop run.length with
      | .keep y z :: behind =>
        if same x z then
          .keep y x :: slide same fuel (run ++ .add z :: behind)
        else (.add x :: run) ++ .keep y z :: slide same fuel behind
      | other => (.add x :: run) ++ (other.takeWhile isDrop) ++
          slide same fuel (other.dropWhile isDrop)
    | edit :: rest => edit :: slide same fuel rest
    | [] => []
where
  /-- Whether a line is taken out. -/
  isDrop : LineEdit → Bool
    | .drop _ => true
    | _ => false
  /-- Whether a line is put in. -/
  isAdd : LineEdit → Bool
    | .add _ => true
    | _ => false

/-- Lines with a mark before them; the end of the file is told if a line has no end. -/
def markedLines (mark : String) (lines : List String) : String :=
  String.join (lines.map fun line =>
    mark ++ line ++ if line.endsWith "\n" then "" else "\n\\ No newline at end of file\n")

/-- The numbers of some lines behind so many others. -/
def lineRange (place count : Nat) : String :=
  if count = 0 then toString place
  else if count = 1 then toString (place + 1)
  else toString (place + 1) ++ "," ++ toString (place + count)

/-- Changes in the usual form. -/
def normalDiff (changes : List LineChange) : String :=
  String.join (changes.map fun c =>
    let letter := if c.dropped.isEmpty then "a" else if c.added.isEmpty then "d" else "c"
    lineRange c.oldPlace c.dropped.length ++ letter ++ lineRange c.newPlace c.added.length ++ "\n" ++
      markedLines "< " c.dropped ++
      (if letter = "c" then "---\n" else "") ++ markedLines "> " c.added)

/-- Changes as commands of an editor, from the end. -/
def scriptDiff (changes : List LineChange) : String :=
  String.join (changes.reverse.map fun c =>
    let letter := if c.dropped.isEmpty then "a" else if c.added.isEmpty then "d" else "c"
    lineRange c.oldPlace c.dropped.length ++ letter ++ "\n" ++
      (if c.added.isEmpty then "" else String.join c.added ++ ".\n"))

/-- Changes that stand so close together that they are shown as one. -/
def closeChanges (context : Nat) : List LineChange → List (List LineChange)
  | [] => []
  | c :: rest =>
    match closeChanges context rest with
    | (d :: ds) :: groups =>
      if d.oldPlace ≤ c.oldPlace + c.dropped.length + 2 * context then (c :: d :: ds) :: groups
      else [c] :: (d :: ds) :: groups
    | groups => [c] :: groups

/-- The place and the number of lines in the head of a group of changes. -/
def unifiedRange (place count : Nat) : String :=
  if count = 1 then toString (place + 1)
  else toString (if count = 0 then place else place + 1) ++ "," ++ toString count

/-- The lines of one file around a group of changes: where they begin, and how many there are. -/
def aroundGroup (context size : Nat) (first last : Nat) : Nat × Nat :=
  let start := first - context
  (start, min size (last + context) - start)

/-- A group of changes with the lines around them, in one row. -/
def unifiedGroup (context : Nat) (old new : List String) (group : List LineChange) : String :=
  match group.head?, group.getLast? with
  | some first, some last =>
    let (start, count) := aroundGroup context old.length first.oldPlace
      (last.oldPlace + last.dropped.length)
    let (start', count') := aroundGroup context new.length first.newPlace
      (last.newPlace + last.added.length)
    let (text, place) := group.foldl
      (fun (state : String × Nat) c =>
        (state.1 ++ markedLines " " ((old.drop state.2).take (c.oldPlace - state.2)) ++
          markedLines "-" c.dropped ++ markedLines "+" c.added, c.oldPlace + c.dropped.length))
      ("", start)
    "@@ -" ++ unifiedRange start count ++ " +" ++ unifiedRange start' count' ++ " @@\n" ++ text ++
      markedLines " " ((old.drop place).take (start + count - place))
  | _, _ => ""

/-- One side of a group of changes with the lines around them. -/
def contextSide (mark : LineChange → String) (placeOf : LineChange → Nat)
    (linesIn : LineChange → List String) (all : List String) (start count : Nat)
    (group : List LineChange) : String :=
  if group.all fun c => (linesIn c).isEmpty then ""
  else
    let (text, place) := group.foldl
      (fun (state : String × Nat) c =>
        (state.1 ++ markedLines "  " ((all.drop state.2).take (placeOf c - state.2)) ++
          markedLines (mark c) (linesIn c), placeOf c + (linesIn c).length)) ("", start)
    text ++ markedLines "  " ((all.drop place).take (start + count - place))

/-- A group of changes with the lines around them, one file behind the other. -/
def contextGroup (context : Nat) (old new : List String) (group : List LineChange) : String :=
  match group.head?, group.getLast? with
  | some first, some last =>
    let (start, count) := aroundGroup context old.length first.oldPlace
      (last.oldPlace + last.dropped.length)
    let (start', count') := aroundGroup context new.length first.newPlace
      (last.newPlace + last.added.length)
    let mark (sign : String) (c : LineChange) : String :=
      if c.dropped.isEmpty || c.added.isEmpty then sign else "! "
    "***************\n*** " ++ lineRange start count ++ " ****\n" ++
      contextSide (mark "- ") LineChange.oldPlace LineChange.dropped old start count group ++
      "--- " ++ lineRange start' count' ++ " ----\n" ++
      contextSide (mark "+ ") LineChange.newPlace LineChange.added new start' count' group
  | _, _ => ""

/-- Lines as they are compared. -/
def comparedLine (o : Options) (line : String) : String :=
  let isBlank (c : Char) : Bool := c = ' ' || ('\t' ≤ c && c ≤ '\r')
  let chars := line.toList
  let trimmed := (chars.reverse.dropWhile isBlank).reverse
  let chars := if o.has 'w' then chars.filter fun c => !isBlank c
    else if o.has 'b' then oneBlank isBlank trimmed
    else if o.has 'Z' then trimmed
    else chars
  String.ofList (if o.has 'i' then chars.map Char.toLower else chars)
where
  /-- The text with one blank for each run of them. -/
  oneBlank (isBlank : Char → Bool) : List Char → List Char
    | [] => []
    | c :: rest =>
      let others := oneBlank isBlank rest
      if isBlank c then if others.head? = some ' ' then others else ' ' :: others else c :: others

/-- The time of a file, in the head of a comparison. -/
def fileTime : String := "\t1970-01-01 00:00:00.000000000 +0000"

/-- Compares the texts of two files.  The words `begin` stand before what is told about them. -/
def diffTexts (o : Options) (begin_ first second a b : String) (m : Machine) : Nat × Machine :=
  let isBinary (text : String) : Bool := !o.has 'a' && text.contains '\x00'
  if a = b then
    (0, if o.has 's' then
        m.print 1 ("Files " ++ first ++ " and " ++ second ++ " are identical\n")
      else m)
  else if isBinary a || isBinary b then
    if o.has 'q' then (1, m.print 1 ("Files " ++ first ++ " and " ++ second ++ " differ\n"))
    else (2, m.print 1 ("Binary files " ++ first ++ " and " ++ second ++ " differ\n"))
  else
    let old := fullLines a
    let new := fullLines b
    let same (x y : String) : Bool := comparedLine o x == comparedLine o y
    let edits := editsOf same old new (commonTable same new old)
    let changes := changesOf 0 0 [] [] (slide same (edits.length + 1) edits)
    let changes := if o.has 'B' then
        changes.filter fun c => !(c.dropped ++ c.added).all (· == "\n")
      else changes
    if changes.isEmpty then
      (0, if o.has 's' then
          m.print 1 ("Files " ++ first ++ " and " ++ second ++ " are identical\n")
        else m)
    else if o.has 'q' then (1, m.print 1 ("Files " ++ first ++ " and " ++ second ++ " differ\n"))
    else
      let number (letter : Char) : Option Nat := (o.value? letter).bind String.toNat?
      let labels := o.values 'L'
      let head (mark : String) (i : Nat) (path : String) : String :=
        mark ++ " " ++ (labels[i]?).getD (path ++ fileTime) ++ "\n"
      let text :=
        if o.has 'u' || o.has 'U' then
          let context := (number 'U').getD 3
          head "---" 0 first ++ head "+++" 1 second ++
            String.join ((closeChanges context changes).map (unifiedGroup context old new))
        else if o.has 'c' || o.has 'C' then
          let context := (number 'C').getD 3
          head "***" 0 first ++ head "---" 1 second ++
            String.join ((closeChanges context changes).map (contextGroup context old new))
        else if o.has 'e' then scriptDiff changes
        else normalDiff changes
      (1, m.print 1 (begin_ ++ text))

/-- Compares two files, of which one may be missing if that counts as empty. -/
def diffFiles (o : Options) (begin_ first second : String) (m : Machine) : Nat × Machine :=
  let read (path : String) : Except SystemError (String × Machine) :=
    if o.has 'N' && path ≠ "-" && (m.standing path).isNone then .ok ("", m) else m.openInput path
  match read first, read second with
  | .ok (a, _), .ok (b, _) =>
    let m := if first = "-" || second = "-" then m.drain else m
    diffTexts o begin_ first second a (if first = second then a else b) m
  | found, other =>
    let tell (path : String) (result : Except SystemError (String × Machine)) (m : Machine) :
        Machine :=
      match result with
      | .ok _ => m
      | .error e => m.warn (path ++ ": " ++ plainMessage e)
    (2, tell second other (tell first found m))

/-- Compares what is in two directories. -/
def diffDirectories (o : Options) (words : String) : Nat → String → String → Machine →
    Nat × Machine
  | 0, _, _, m => (2, m)
  | fuel + 1, first, second, m =>
    let names (path : String) : List String :=
      match m.standing path with
      | some (location, .directory) => (childrenOf m.tree location).map Prod.fst
      | _ => []
    let old := names first
    let new := names second
    let all := (old ++ new.filter fun name => !old.contains name).mergeSort fun a b =>
      decide (a ≤ b)
    all.foldl
      (fun (state : Nat × Machine) name =>
        let (status, m) := state
        let a := below first name
        let b := below second name
        let only (directory : String) : Nat × Machine :=
          (max status 1, m.print 1 ("Only in " ++ directory ++ ": " ++ name ++ "\n"))
        let both (status' : Nat) (m : Machine) : Nat × Machine := (max status status', m)
        if !old.contains name && !o.has 'N' then only second
        else if !new.contains name && !o.has 'N' then only first
        else if m.isDirectory a || m.isDirectory b then
          if o.has 'r' then
            let (status', m) := diffDirectories o words fuel a b m
            both status' m
          else (status, m.print 1 ("Common subdirectories: " ++ a ++ " and " ++ b ++ "\n"))
        else
          let head := "diff" ++ words ++ " " ++ a ++ " " ++ b ++ "\n"
          let (status', m) := diffFiles o head a b m
          both status' m) (0, m)

/-- Compares files line by line. -/
def diff : Builtin := fun args m =>
  let table : OptionTable :=
    { flags := "abBcdeEiNnpqrstuwyZ=", valued := "CLUWxI", mixed := true, badStatus := 2
      long := [("brief", 'q'), ("report-identical-files", 's'), ("unified", 'u'), ("label", 'L'),
        ("context", 'c'), ("ignore-case", 'i'), ("ignore-all-space", 'w'),
        ("ignore-space-change", 'b'), ("ignore-blank-lines", 'B'), ("recursive", 'r'),
        ("new-file", 'N'), ("text", 'a'), ("normal", 'p'), ("ed", 'e'),
        ("ignore-trailing-space", 'Z'), ("minimal", 'd'), ("color", '=')] }
  match table.readAll (args.map fun arg =>
      -- A number behind the letter is the number of lines around changes.
      if arg.startsWith "-u" && 2 < arg.length && (arg.drop 2).toString.toNat?.isSome then
        "-U" ++ (arg.drop 2).toString
      else arg) with
  | .error text => hintBehind text m
  | .ok o =>
    match o.operands with
    | [] => hintBehind ("missing operand after '" ++ m.name ++ "'") m
    | [first] => hintBehind ("missing operand after '" ++ first ++ "'") m
    | [first, second] =>
      let words := String.join ((args.filter fun arg => arg.startsWith "-" && arg ≠ "-").map
        (" " ++ ·))
      let (status, m) :=
        match m.isDirectory first, m.isDirectory second with
        | true, true => diffDirectories o words (m.tree.nodes.entries.length + 1) first second m
        | true, false => diffFiles o "" (below first (baseName second)) second m
        | false, true => diffFiles o "" first (below second (baseName first)) m
        | false, false => diffFiles o "" first second m
      m.done status
    | _ :: _ :: extra :: _ => hintBehind ("extra operand '" ++ extra ++ "'") m

end SmellRefactor.Shell
