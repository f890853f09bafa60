import SmellRefactor.Shell.Utility.Basic

/-!
# Programs that show bytes

`od` writes bytes as numbers, characters or names, in rows with their places, and `base64` writes
them with the letters of an alphabet of 64, or reads such letters.
-/

namespace SmellRefactor.Shell

/-! ## The fields of a row -/

/-- How bytes are shown. -/
inductive ByteForm where
  /-- The name of a character of ASCII. -/
  | name
  /-- A character, or its number if it cannot be seen. -/
  | character
  | unsigned (base : Nat)
  | signed
deriving DecidableEq, Repr

/-- A line of each row: how it shows bytes, how many of them in a field, and whether they follow as
characters at the end. -/
structure RowLine where
  form : ByteForm
  size : Nat
  trailed : Bool
deriving Repr

/-- The names of the characters that cannot be seen. -/
def controlNames : List String :=
  ["nul", "soh", "stx", "etx", "eot", "enq", "ack", "bel", "bs", "ht", "nl", "vt", "ff", "cr",
    "so", "si", "dle", "dc1", "dc2", "dc3", "dc4", "nak", "syn", "etb", "can", "em", "sub", "esc",
    "fs", "gs", "rs", "us", "sp"]

/-- The digits of a number, after zeros up to some width. -/
def zeroFilled (base width n : Nat) : String :=
  let digits := Nat.toDigits base n
  String.ofList (List.replicate (width - digits.length) '0' ++ digits)

/-- A character that can be seen, or its usual escape, or its number. -/
def shownCharacter (byte : Nat) : String :=
  match byte with
  | 0 => "\\0"
  | 7 => "\\a"
  | 8 => "\\b"
  | 9 => "\\t"
  | 10 => "\\n"
  | 11 => "\\v"
  | 12 => "\\f"
  | 13 => "\\r"
  | _ => if 32 ≤ byte && byte < 127 then String.singleton (Char.ofNat byte)
    else zeroFilled 8 3 byte

/-- The number whose digits, the least one first, are bytes. -/
def numberOfBytes (bytes : List Nat) : Nat := bytes.foldr (fun byte n => byte + 256 * n) 0

namespace RowLine

/-- The count of the numbers that a field can show. -/
def range (l : RowLine) : Nat := 1 <<< (8 * l.size)

/-- The width of a field. -/
def width (l : RowLine) : Nat :=
  match l.form with
  | .name | .character => 3
  | .unsigned base => (Nat.toDigits base (l.range - 1)).length
  | .signed => (Nat.toDigits 10 (l.range / 2)).length + 1

/-- The text of a field. -/
def field (l : RowLine) (bytes : List Nat) : String :=
  let n := numberOfBytes bytes
  match l.form with
  | .name => if n % 128 = 127 then "del"
    else (controlNames[n % 128]?).getD (String.singleton (Char.ofNat (n % 128)))
  | .character => shownCharacter n
  | .unsigned 10 => toString n
  | .unsigned base => zeroFilled base l.width n
  | .signed => if 2 * n < l.range then toString n else "-" ++ toString (l.range - n)

/-- A row as a line of fields, which has so many of them and so much room if the row is full. -/
def text (l : RowLine) (perRow room : Nat) (row : List Nat) : String :=
  let fields := perRow / l.size
  let spare := room - fields * l.width
  let missing := (perRow - row.length) / l.size
  let taken (i : Nat) : Nat := spare * (fields - i) / fields
  let one (i : Nat) : String :=
    let bytes := (row.drop (i * l.size)).take l.size
    paddedLeft (l.width + taken i - taken (i + 1)) (l.field bytes)
  let shown := String.join ((List.range (fields - missing)).map one)
  if !l.trailed then shown
  else
    let gap := List.replicate (missing * l.width + spare * missing / fields) ' '
    let seen (byte : Nat) : Char := if 32 ≤ byte && byte < 127 then Char.ofNat byte else '.'
    shown ++ String.ofList gap ++ "  >" ++ String.ofList (row.map seen) ++ "<"
where
  /-- A text at the right end of a field of some width. -/
  paddedLeft (width : Nat) (text : String) : String :=
    String.ofList (List.replicate (width - text.length) ' ') ++ text

/-- The size of a field that a letter or a number names, and what is behind it. -/
def readSize (type : String) (text : List Char) : Except String (Nat × List Char) :=
  match text with
  | 'C' :: rest => .ok (1, rest)
  | 'S' :: rest => .ok (2, rest)
  | 'I' :: rest => .ok (4, rest)
  | 'L' :: rest => .ok (8, rest)
  | _ =>
    let digits := text.takeWhile Char.isDigit
    let n := Decimal.valueOf 10 digits
    if digits.isEmpty then .ok (4, text)
    else if [1, 2, 4, 8].contains n then .ok (n, text.drop digits.length)
    else .error ("invalid type string '" ++ type ++ "';\nthis system doesn't provide a " ++
      toString n ++ "-byte integral type")

/-- Reads the lines that a text of types asks for. -/
def readTypes (type : String) : Nat → List Char → Except String (List RowLine)
  | 0, _ | _, [] => .ok []
  | fuel + 1, letter :: rest => do
    let form? : Option ByteForm := match letter with
      | 'a' => some .name
      | 'c' => some .character
      | 'd' => some .signed
      | 'o' => some (.unsigned 8)
      | 'u' => some (.unsigned 10)
      | 'x' => some (.unsigned 16)
      | _ => none
    match form? with
    | none =>
      .error ("invalid character '" ++ letter.toString ++ "' in type string '" ++ type ++ "'")
    | some form =>
      let (size, rest) ← if form = .name || form = .character then .ok (1, rest)
        else readSize type rest
      match rest with
      | 'z' :: rest => return ⟨form, size, true⟩ :: (← readTypes type fuel rest)
      | _ => return ⟨form, size, false⟩ :: (← readTypes type fuel rest)

end RowLine

/-! ## Rows -/

/-- A list in pieces of so many members, of which only the last one may be shorter. -/
def inPieces {α : Type} (size : Nat) : Nat → List α → List (List α)
  | 0, _ | _, [] => []
  | fuel + 1, list => list.take size :: inPieces size fuel (list.drop size)

/-- The places at the left of rows. -/
structure PlaceForm where
  base : Nat
  width : Nat
deriving Repr

namespace PlaceForm

/-- The form of places that a letter names; `none` stands for no places. -/
def read? : String → Option (Option PlaceForm)
  | "d" => some (some ⟨10, 7⟩)
  | "o" => some (some ⟨8, 7⟩)
  | "x" => some (some ⟨16, 6⟩)
  | "n" => some none
  | _ => none

/-- A place. -/
def text (form : Option PlaceForm) (place : Nat) : String :=
  match form with
  | none => ""
  | some form => zeroFilled form.base form.width place

end PlaceForm

/-- The rows of some bytes, each in all its lines.  A row that equals the one before it is left out,
with one mark for all that follow each other. -/
def dumpRows (form : Option PlaceForm) (rowLines : List RowLine) (perRow start : Nat) (all : Bool)
    (bytes : List Nat) : List String :=
  let fieldsOf (l : RowLine) : Nat := perRow / l.size
  let room := (rowLines.map fun l => fieldsOf l * (l.width + 1)).foldl max 0
  let margin := String.ofList (List.replicate ((form.map PlaceForm.width).getD 0) ' ')
  let showRow (place : Nat) (row : List Nat) : List String :=
    rowLines.mapIdx fun i l =>
      (if i = 0 then PlaceForm.text form place else margin) ++ l.text perRow room row
  let step (state : List (List String) × List Nat × Bool × Nat) (row : List Nat) :
      List (List String) × List Nat × Bool × Nat :=
    let (shown, before, marked, place) := state
    let after := place + row.length
    if !all && row = before && row.length = perRow then
      (if marked then shown else ["*"] :: shown, row, true, after)
    else (showRow place row :: shown, row, false, after)
  let (shown, _) := (inPieces perRow bytes.length bytes).foldl step ([], [], false, start)
  shown.reverse.flatten

/-- The number of a text, in base eight after a zero and in base 16 after `0x`. -/
def prefixedNumber? (text : String) : Option Nat :=
  match text.toList with
  | '0' :: 'x' :: digits | '0' :: 'X' :: digits =>
    if !digits.isEmpty && digits.all (Decimal.isDigitOf 16) then some (Decimal.valueOf 16 digits)
    else none
  | '0' :: digits =>
    if digits.all (Decimal.isDigitOf 8) then some (Decimal.valueOf 8 digits) else none
  | _ => sizeOf? text

/-- The type that a letter of its own stands for. -/
def typeOfLetter? : Char → Option String
  | 'a' => some "a"
  | 'b' => some "o1"
  | 'c' => some "c"
  | 'd' => some "u2"
  | 'D' => some "u4"
  | 'i' => some "dI"
  | 'l' | 'I' | 'L' => some "dL"
  | 'o' | 'B' => some "o2"
  | 'O' => some "o4"
  | 's' => some "d2"
  | 'x' | 'h' => some "x2"
  | 'X' | 'H' => some "x4"
  | _ => none

/-- The lines of each row that the options ask for. -/
def rowLinesOf (o : Options) : Except String (List RowLine) := do
  let types := o.given.filterMap fun (letter, value) =>
    if letter = 't' then some value else typeOfLetter? letter
  let lines ← types.mapM fun type => RowLine.readTypes type (type.length + 1) type.toList
  match lines.flatten with
  | [] => return [⟨.unsigned 8, 2, false⟩]
  | lines => return lines

/-- Shows the bytes of files. -/
def od : Builtin := fun args m =>
  let args := args.map fun arg => if arg = "-w" || arg = "--width" then "-w32" else arg
  withTable
    { flags := "abcdDilILoBOsxhXHv", valued := "AjNStw", mixed := true, badStatus := 1
      long := [("address-radix", 'A'), ("skip-bytes", 'j'), ("read-bytes", 'N'), ("strings", 'S'),
        ("format", 't'), ("output-duplicates", 'v'), ("width", 'w')] }
    (fun o m =>
      let amount (letter : Char) : Except String (Option Nat) :=
        match o.value? letter with
        | none => .ok none
        | some text => match prefixedNumber? text with
          | some n => .ok (some n)
          | none => .error ("invalid -" ++ letter.toString ++ " argument '" ++ text ++ "'")
      let radix := (o.value? 'A').getD "o"
      match PlaceForm.read? radix, rowLinesOf o, amount 'j', amount 'N', amount 'w' with
      | none, _, _, _, _ =>
        m.report ("invalid output address radix '" ++ radix ++
          "'; it must be one character from [doxn]") 1
      | _, .error text, _, _, _ | _, _, .error text, _, _ | _, _, _, .error text, _
      | _, _, _, _, .error text => m.report text 1
      | some form, .ok rowLines, .ok skipped, .ok limit, .ok width =>
        let complaint (path : String) (e : SystemError) : String :=
          shownName path ++ ": " ++ plainMessage e
        let largest := (rowLines.map RowLine.size).foldl max 1
        let (perRow, m) := match width with
          | none => (16 / largest * largest, m)
          | some n =>
            if 0 < n && n % largest = 0 then (n, m)
            else (largest, m.warn ("warning: invalid width " ++ toString n ++ "; using " ++
              toString largest ++ " instead"))
        let (status, text, m) := readTogether complaint 1 o.files m
        let isThere (path : String) : Bool := path = "-" || (m.standing path).isSome
        if !o.files.any isThere then m.done 1
        else
          let bytes := text.toList.map Char.toNat
          let start := skipped.getD 0
          if bytes.length < start then m.report "cannot skip past end of combined input" 1
          else
            let bytes := bytes.drop start
            let bytes := (limit.map bytes.take).getD bytes
            let rows := dumpRows form rowLines perRow start (o.has 'v') bytes
            let ending := match form with
              | none => []
              | some _ => [PlaceForm.text form (start + bytes.length)]
            (m.print 1 (unlines (rows ++ ending))).done status) args m

/-! ## Letters for bytes -/

/-- The letters that stand for six bits, in the order of what they stand for. -/
def sixBitLetters : List Char :=
  ("ABCDEFGHIJKLMNOPQRSTUVWXYZ" ++ "abcdefghijklmnopqrstuvwxyz" ++ "0123456789+/").toList

/-- The four letters for up to three bytes; `=` stands for what is missing. -/
def sixBitGroup (bytes : List Nat) : List Char :=
  let n := (bytes ++ List.replicate (3 - bytes.length) 0).foldl (fun n byte => 256 * n + byte) 0
  let letter (digit : Nat) : Char := (sixBitLetters[digit % 64]?).getD '='
  let letters := [letter (n / 262144), letter (n / 4096), letter (n / 64), letter n]
  letters.take (bytes.length + 1) ++ List.replicate (3 - bytes.length) '='

/-- The bytes of a group of letters, as far as they can be read, and whether the group is whole. -/
def bytesOfGroup (letters : List Char) : List Nat × Bool :=
  let digits := (letters.map sixBitLetters.idxOf?).takeWhile Option.isSome
  match digits.map fun digit => digit.getD 0, letters.drop digits.length with
  | [a, b], rest => ([4 * a + b / 16], rest = ['=', '='])
  | [a, b, c], rest => ([4 * a + b / 16, b % 16 * 16 + c / 4], rest = ['='])
  | [a, b, c, d], _ => ([4 * a + b / 16, b % 16 * 16 + c / 4, c % 4 * 64 + d], true)
  | _, _ => ([], false)

/-- The bytes of letters, up to the first group that is not whole, and whether all groups are. -/
def bytesOfGroups : List (List Char) → List Nat × Bool
  | [] => ([], true)
  | group :: rest =>
    match bytesOfGroup group with
    | (bytes, false) => (bytes, false)
    | (bytes, true) =>
      let (more, isSound) := bytesOfGroups rest
      (bytes ++ more, isSound)

/-- Writes bytes as letters, or reads them. -/
def base64 : Builtin :=
  withTable
    { flags := "di", valued := "w", mixed := true, badStatus := 1
      long := [("decode", 'd'), ("ignore-garbage", 'i'), ("wrap", 'w')] }
    fun o m =>
      match o.operands, (o.value? 'w').map String.toNat? with
      | _, some none => m.report ("invalid wrap size: '" ++ (o.value? 'w').getD "" ++ "'") 1
      | _ :: extra :: _, _ => m.misuse ("extra operand '" ++ extra ++ "'")
      | _, width =>
        let path := o.files.headD "-"
        let refused (e : SystemError) : Flow × Machine :=
          m.report (if e = .isDirectory then "read error: Is a directory"
            else aboutFile path e) 1
        match m.openInput path with
        | .error e => refused e
        | .ok (text, m) =>
          let asText (bytes : List Nat) : String := String.ofList (bytes.map Char.ofNat)
          if o.has 'd' then
            let isLetter (c : Char) : Bool := sixBitLetters.contains c || c = '='
            let letters := text.toList.filter fun c => if o.has 'i' then isLetter c else c ≠ '\n'
            let (bytes, isSound) := bytesOfGroups (inPieces 4 letters.length letters)
            let m := m.print 1 (asText bytes)
            if isSound then m.done 0 else m.report "invalid input" 1
          else
            let bytes := text.toList.map Char.toNat
            let letters := (inPieces 3 bytes.length bytes).flatMap sixBitGroup
            let width := (width.bind id).getD 76
            if width = 0 then (m.print 1 (String.ofList letters)).done 0
            else
              let rows := (inPieces width letters.length letters).map String.ofList
              (m.print 1 (unlines rows)).done 0

end SmellRefactor.Shell
