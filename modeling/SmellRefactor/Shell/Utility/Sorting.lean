import SmellRefactor.Shell.Format
import SmellRefactor.Shell.Utility.Basic

/-!
# Programs about the order of lines

`sort` puts lines in order, `uniq` drops lines that follow the same line, and `comm` compares two
files that are in order.
-/

namespace SmellRefactor.Shell

/-! ## Keys -/

/-- A part of lines by which they are ordered. -/
structure SortKey where
  firstField : Nat
  firstChar : Nat
  /-- The last field, if the key does not go to the end of the line. -/
  lastField : Option Nat
  /-- The last character in the last field; zero stands for its end. -/
  lastChar : Nat
  /-- The letters of the options of the key. -/
  options : List Char
deriving Repr

/-- Whether a character is a blank between fields. -/
def isFieldBlank (c : Char) : Bool := c = ' ' || c = '\t' || c = '\n'

/-- What stands behind so many fields of a line. -/
def behindFields (separator : Option Char) : Nat → List Char → List Char
  | 0, line => line
  | n + 1, line =>
    match separator with
    | some c => behindFields separator n (line.dropWhile (· ≠ c)).tail
    | none => behindFields separator n ((line.dropWhile isFieldBlank).dropWhile (!isFieldBlank ·))

/-- The field at the beginning of a text, with the blanks before it. -/
def fieldAt (separator : Option Char) (text : List Char) : List Char :=
  match separator with
  | some c => text.takeWhile (· ≠ c)
  | none =>
    let blanks := text.takeWhile isFieldBlank
    blanks ++ (text.drop blanks.length).takeWhile (!isFieldBlank ·)

namespace SortKey

/-- Whether a key has an option. -/
def has (k : SortKey) (option : Char) : Bool := k.options.contains option

/-- The part of a line that a key means. -/
def part (k : SortKey) (separator : Option Char) (line : List Char) : List Char :=
  let skip (text : List Char) : List Char :=
    if k.has 'b' then text.dropWhile isFieldBlank else text
  let start := (skip (behindFields separator (k.firstField - 1) line)).drop (k.firstChar - 1)
  match k.lastField with
  | none => start
  | some last =>
    let field := behindFields separator (last - 1) line
    let stop := if k.lastChar = 0 then field.drop (fieldAt separator field).length
      else (skip field).drop k.lastChar
    start.take (start.length - stop.length)

end SortKey

/-- Reads a place of a key: a field, a character, and the letters behind them. -/
def readKeyPlace (text : List Char) : Option (Nat × Option Nat × List Char × List Char) :=
  let field := text.takeWhile Char.isDigit
  let rest := text.drop field.length
  let (char, rest) := match rest with
    | '.' :: more =>
      (some (Decimal.valueOf 10 (more.takeWhile Char.isDigit)), more.dropWhile Char.isDigit)
    | rest => (none, rest)
  let letters := rest.takeWhile "bdfgiMhnRrV".toList.contains
  if field.isEmpty then none
  else some (Decimal.valueOf 10 field, char, letters, rest.drop letters.length)

/-- Reads a key. -/
def readSortKey (text : String) : Except String SortKey :=
  match readKeyPlace text.toList with
  | none =>
    .error ("invalid number at field start: invalid count at start of '" ++ text ++ "'")
  | some (0, _, _, _) =>
    .error ("field number is zero: invalid field specification '" ++ text ++ "'")
  | some (field, char, letters, rest) =>
    if char = some 0 then
      .error ("character offset is zero: invalid field specification '" ++ text ++ "'")
    else match rest with
    | [] => .ok ⟨field, char.getD 1, none, 0, letters⟩
    | ',' :: more =>
      match readKeyPlace more with
      | none => .error ("invalid number after ',': invalid count at start of '" ++
          String.ofList more ++ "'")
      | some (0, _, _, _) =>
        .error ("field number is zero: invalid field specification '" ++ text ++ "'")
      | some (last, lastChar, more, []) =>
        .ok ⟨field, char.getD 1, some last, lastChar.getD 0, letters ++ more⟩
      | some _ => .error ("stray character in field spec: invalid field specification '" ++
          text ++ "'")
    | _ => .error ("stray character in field spec: invalid field specification '" ++ text ++ "'")

/-! ## Comparisons -/

/-- The order of two lists of characters. -/
def compareChars (a b : List Char) : Ordering := compare (String.ofList a) (String.ofList b)

/-- A number at the beginning of a text, as a sign, digits before a point and digits behind it. -/
def leadingNumber (text : List Char) : Bool × List Char × List Char × List Char :=
  let text := text.dropWhile isFieldBlank
  let (negative, text) := match text with
    | '-' :: rest => (true, rest)
    | rest => (false, rest)
  let (whole, behind, rest) := readDigits 10 text
  (negative, whole, behind, rest)

/-- The order of two numbers at the beginnings of texts. -/
def compareNumbers (a b : List Char) : Ordering :=
  let (s, w, f, _) := leadingNumber a
  let (t, v, g, _) := leadingNumber b
  let size := max f.length g.length
  let value (negative : Bool) (whole behind : List Char) : Int :=
    let n : Int := Decimal.valueOf 10
      (whole ++ behind ++ List.replicate (size - behind.length) '0')
    if negative then -n else n
  compare (value s w f) (value t v g)

/-- The order of two real numbers. -/
def compareReals (a b : Decimal.Binary64) : Ordering :=
  let rank : Decimal.Binary64 → Nat
    | .undefined => 0
    | .infinite true => 1
    | .finite _ _ _ => 2
    | .infinite false => 3
  match a, b with
  | .finite s m e, .finite t n f =>
    let least := min e f
    let value (negative : Bool) (m : Nat) (e : Int) : Int :=
      let n : Int := m * Decimal.twoTo (e - least).toNat
      if negative then -n else n
    compare (value s m e) (value t n f)
  | a, b => compare (rank a) (rank b)

/-- The order of two texts by the real numbers at their beginnings; texts without one come first. -/
def compareGeneral (a b : List Char) : Ordering :=
  match readReal a, readReal b with
  | none, none => .eq
  | none, some _ => .lt
  | some _, none => .gt
  | some (x, _), some (y, _) => compareReals x y

/-- The order of two texts by numbers with a suffix for their size. -/
def compareSizes (a b : List Char) : Ordering :=
  let rank (text : List Char) : Int :=
    let (negative, _, _, rest) := leadingNumber text
    let n : Int := match rest.head? with
      | none => 0
      | some 'k' => 1
      | some c => ("KMGTPEZY".toList.findIdx? (· = c)).elim 0 fun i => (i : Int) + 1
    if negative then -n else n
  (compare (rank a) (rank b)).then (compareNumbers a b)

/-- The place of the month with whose name a text begins. -/
def monthOf (text : List Char) : Nat :=
  let name := String.ofList (((text.dropWhile isFieldBlank).take 3).map Char.toUpper)
  ((["JAN", "FEB", "MAR", "APR", "MAY", "JUN", "JUL", "AUG", "SEP", "OCT", "NOV",
    "DEC"].findIdx? (· = name)).map (· + 1)).getD 0

/-- The place of a character among those of versions. -/
def versionRank (c : Option Char) : Int :=
  match c with
  | none => 0
  | some c =>
    if c.isDigit then 0 else if c.isAlpha then c.toNat else if c = '~' then -1 else c.toNat + 256

/-- The order of two versions: runs of digits count as numbers. -/
def compareVersions : Nat → List Char → List Char → Ordering
  | 0, _, _ => .eq
  | _, [], [] => .eq
  | fuel + 1, a, b =>
    let isText (c : Option Char) : Bool := c.any fun c => !c.isDigit
    if isText a.head? || isText b.head? then
      let x := versionRank a.head?
      let y := versionRank b.head?
      if x = y then compareVersions fuel a.tail b.tail else compare x y
    else
      let x := Decimal.valueOf 10 (a.takeWhile Char.isDigit)
      let y := Decimal.valueOf 10 (b.takeWhile Char.isDigit)
      if x = y then
        compareVersions fuel (a.dropWhile Char.isDigit) (b.dropWhile Char.isDigit)
      else compare x y

/-- The order of two parts of lines under options. -/
def compareParts (options : List Char) (a b : List Char) : Ordering :=
  let has (c : Char) : Bool := options.contains c
  let ordering :=
    if has 'n' then compareNumbers a b
    else if has 'g' then compareGeneral a b
    else if has 'h' then compareSizes a b
    else if has 'M' then compare (monthOf a) (monthOf b)
    else if has 'V' then
      (compareVersions (a.length + b.length + 1) a b).then (compareChars a b)
    else
      let prepare (text : List Char) : List Char :=
        let text := if has 'd' then text.filter fun c => c.isAlphanum || isFieldBlank c else text
        let text := if has 'i' then text.filter fun c => ' ' ≤ c && c ≤ '~' else text
        if has 'f' then text.map Char.toUpper else text
      compareChars (prepare a) (prepare b)
  if has 'r' then ordering.swap else ordering

/-! ## The programs -/

/-- The order of two lines. -/
def compareLines (keys : List SortKey) (separator : Option Char) (options : List Char)
    (lastResort : Bool) (a b : String) : Ordering :=
  let x := a.toList
  let y := b.toList
  let inherited := options.filter "bdfgiMhnRrV".toList.contains
  let byKeys :=
    if keys.isEmpty then
      let skip (text : List Char) : List Char :=
        if inherited.contains 'b' then text.dropWhile isFieldBlank else text
      compareParts inherited (skip x) (skip y)
    else keys.foldl
      (fun ordering key => ordering.then (
        let key := if key.options.isEmpty then { key with options := inherited } else key
        compareParts key.options (key.part separator x) (key.part separator y))) .eq
  if byKeys ≠ .eq || !lastResort then byKeys
  else if options.contains 'r' then (compareChars x y).swap else compareChars x y

/-- The lines without those that are equal to the one before them. -/
def withoutRepeats (same : String → String → Bool) : List String → List String
  | a :: b :: rest =>
    if same a b then withoutRepeats same (a :: rest) else a :: withoutRepeats same (b :: rest)
  | lines => lines

/-- The number of the first line that should stand before the one above it. -/
def firstDisorder (before : String → String → Bool) : Nat → List String → Option (Nat × String)
  | n, a :: b :: rest => if before a b then firstDisorder before (n + 1) (b :: rest) else some (n, b)
  | _, _ => none

/-- Puts lines in order. -/
def sort : Builtin :=
  withTable
    { flags := "bcCdfghiMmnRrsuVz", valued := "koStTy", mixed := true, badStatus := 2
      long := [("reverse", 'r'), ("numeric-sort", 'n'), ("unique", 'u'), ("key", 'k'),
        ("field-separator", 't'), ("ignore-case", 'f'), ("output", 'o'), ("stable", 's'),
        ("check", 'c'), ("ignore-leading-blanks", 'b'), ("dictionary-order", 'd'),
        ("general-numeric-sort", 'g'), ("human-numeric-sort", 'h'), ("version-sort", 'V'),
        ("month-sort", 'M'), ("merge", 'm'), ("random-sort", 'R')] }
    fun o m =>
      let letters := o.given.map Prod.fst
      match (o.values 'k').mapM readSortKey, (o.value? 't').map fun t => t.replace "\\0" "\x00" with
      | .error text, _ => m.report text 2
      | .ok keys, separator =>
        match separator.filter fun t => 1 < t.length with
        | some t => m.report ("multi-character tab '" ++ t ++ "'") 2
        | none =>
          let separator := separator.bind fun t => t.toList.head?
          let compare_ := compareLines keys separator letters
          let complaint (path : String) (e : SystemError) : String :=
            if e = .isDirectory then "read failed: " ++ path ++ ": Is a directory"
            else "cannot read: " ++ aboutFile path e
          let (status, m, files) := o.files.foldl
            (fun (state : Nat × Machine × List (List String)) path =>
              let (status, m, files) := state
              if status ≠ 0 then state
              else match m.openInput path with
              | .ok (text, m) => (0, m, files ++ [linesOf text])
              | .error e => (2, m.warn (complaint path e), files)) (0, m, [])
          let lines := files.flatten
          if status ≠ 0 then m.done status
          else if o.has 'c' || o.has 'C' then
            let before (a b : String) : Bool :=
              if o.has 'u' then (compare_ false a b).isLT else !(compare_ (!o.has 's') a b).isGT
            match firstDisorder before 2 lines with
            | none => m.done 0
            | some (n, line) =>
              (if o.has 'C' then m else m.warn (o.files.head?.getD "-" ++ ":" ++ toString n ++
                ": disorder: " ++ line)).done 1
          else
            let stable := o.has 's' || o.has 'u'
            let before (a b : String) : Bool := !(compare_ (!stable) a b).isGT
            let sorted := if o.has 'm' then files.foldl (fun a b => a.merge b before) []
              else lines.mergeSort before
            let sorted := if o.has 'u' then
                withoutRepeats (fun a b => (compare_ false a b).isEq) sorted
              else sorted
            match o.value? 'o' with
            | none => (m.print 1 (unlines sorted)).done 0
            | some path =>
              match overwrite path (unlines sorted) m with
              | .ok m => m.done 0
              | .error e => m.report ("open failed: " ++ aboutFile path e) 2

/-- Runs of lines that are the same. -/
def runsOf (same : String → String → Bool) : List String → List (List String)
  | [] => []
  | line :: rest =>
    match runsOf same rest with
    | (first :: others) :: runs =>
      if same line first then (line :: first :: others) :: runs
      else [line] :: (first :: others) :: runs
    | runs => [line] :: runs

/-- Drops lines that follow the same line. -/
def uniq : Builtin :=
  withTable
    { flags := "cdDuiz", valued := "fsw", mixed := true, badStatus := 1
      long := [("count", 'c'), ("repeated", 'd'), ("unique", 'u'), ("ignore-case", 'i'),
        ("skip-fields", 'f'), ("skip-chars", 's'), ("check-chars", 'w')] }
    fun o m =>
      match o.operands with
      | _ :: _ :: extra :: _ => m.misuse ("extra operand '" ++ extra ++ "'")
      | operands =>
        let path := operands.head?.getD "-"
        match m.openInput path with
        | .error .isDirectory => m.report ("error reading '" ++ path ++ "'") 1
        | .error e => m.report (aboutFile path e) 1
        | .ok (text, m) =>
          let number (letter : Char) : Option Nat := (o.value? letter).bind String.toNat?
          let key (line : String) : List Char :=
            let rest := (behindFields none ((number 'f').getD 0) line.toList).drop
              ((number 's').getD 0)
            let rest := match number 'w' with
              | some n => rest.take n
              | none => rest
            if o.has 'i' then rest.map Char.toLower else rest
          let runs := runsOf (fun a b => key a == key b) (linesOf text)
          let runs := if o.has 'd' || o.has 'D' then runs.filter fun r => 1 < r.length else runs
          let runs := if o.has 'u' then runs.filter fun r => r.length = 1 else runs
          let shown := runs.flatMap fun run =>
            let first := run.head?.getD ""
            if o.has 'D' then run
            else if o.has 'c' then
              let count := toString run.length
              [String.ofList (List.replicate (7 - count.length) ' ') ++ count ++ " " ++ first]
            else [first]
          match operands[1]? with
          | none => (m.print 1 (unlines shown)).done 0
          | some target =>
            match overwrite target (unlines shown) m with
            | .ok m => m.done 0
            | .error e => m.report (aboutFile target e) 1

/-- The lines of two files side by side: in which of them each line is. -/
def mergeLines : Nat → List String → List String → List (Nat × String)
  | 0, _, _ => []
  | _, [], second => second.map fun line => (2, line)
  | _, first, [] => first.map fun line => (1, line)
  | fuel + 1, a :: first, b :: second =>
    match compare a b with
    | .lt => (1, a) :: mergeLines fuel first (b :: second)
    | .gt => (2, b) :: mergeLines fuel (a :: first) second
    | .eq => (3, a) :: mergeLines fuel first second

/-- Compares two files that are in order. -/
def comm : Builtin :=
  withTable
    { flags := "123z", valued := "", mixed := true, badStatus := 1, long := [] }
    fun o m =>
      match o.operands with
      | [] => m.misuse "missing operand"
      | [path] => m.misuse ("missing operand after '" ++ path ++ "'")
      | [first, second] =>
        match m.openInput first with
        | .error e => m.report (aboutFile first e) 1
        | .ok (text, m) =>
          match m.openInput second with
          | .error e => m.report (aboutFile second e) 1
          | .ok (other, m) =>
            let a := linesOf text
            let b := linesOf other
            let rows := mergeLines (a.length + b.length + 1) a b
            let hidden (n : Nat) : Bool := o.has (Char.ofNat (n + 48))
            let margin (n : Nat) : String :=
              String.ofList (List.replicate
                (((List.range n).filter fun k => 0 < k && !hidden k).length) '\t')
            let shown := (rows.filter fun row => !hidden row.1).map fun row =>
              margin row.1 ++ row.2
            let m := m.print 1 (unlines shown)
            -- Files that are the same throughout need not be in order.
            let isSorted (lines : List String) : Bool :=
              rows.all (fun row => row.1 = 3) ||
                (firstDisorder (fun a b => decide (a ≤ b)) 2 lines).isNone
            let m := if isSorted a then m else m.warn "file 1 is not in sorted order"
            let m := if isSorted b then m else m.warn "file 2 is not in sorted order"
            if isSorted a && isSorted b then m.done 0
            else m.report "input is not in sorted order" 1
      | _ :: _ :: extra :: _ => m.misuse ("extra operand '" ++ extra ++ "'")

end SmellRefactor.Shell
