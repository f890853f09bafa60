import SmellRefactor.Shell.Builtin.Printing
import SmellRefactor.Shell.Utility.Basic

/-!
# Programs that take lines and characters apart

`cut` takes parts out of lines, and `tr` puts characters in the place of others.
-/

namespace SmellRefactor.Shell

/-! ## Parts of lines -/

/-- Places of a line, from one up to another; without a last one they go to the end. -/
structure Span where
  first : Nat
  last : Option Nat
deriving Repr

namespace Span

/-- Whether a place lies in a span. -/
def contains (s : Span) (place : Nat) : Bool :=
  s.first ≤ place && (match s.last with
    | none => true
    | some last => place ≤ last)

/-- Reads a list of spans. -/
def readList (fields : Bool) (text : String) : Except String (List Span) :=
  let parts := (text.splitOn ",").flatMap fun part => part.splitOn " "
  parts.mapM fun part =>
    let zero := if fields then "fields are numbered from 1"
      else "byte/character positions are numbered from 1"
    let bad : Except String Span := .error (if fields then "invalid field value '" ++ part ++ "'"
      else "invalid byte/character position '" ++ part ++ "'")
    let number (s : String) : Except String Nat :=
      match s.toNat? with
      | some 0 => .error zero
      | some n => .ok n
      | none => match bad with
        | .error text => .error text
        | .ok _ => .ok 0
    match part.splitOn "-" with
    | [""] => .error zero
    | [single] => do
      let n ← number single
      return ⟨n, some n⟩
    | ["", ""] => .error "invalid range with no endpoint: -"
    | [first, ""] => do return ⟨← number first, none⟩
    | ["", last] => do return ⟨1, some (← number last)⟩
    | [first, last] => do
      let a ← number first
      let b ← number last
      if b < a then throw "invalid decreasing range" else return ⟨a, some b⟩
    | _ => bad

end Span

/-- Runs of chosen characters of a line. -/
def chosenRuns (chosen : Nat → Bool) (starts : Nat → Bool) (line : List Char) : List (List Char) :=
  let step (state : List (List Char) × Nat × Bool) (c : Char) : List (List Char) × Nat × Bool :=
    let (runs, place, within) := state
    if chosen place then
      match runs with
      | run :: others =>
        if within && !starts place then ((c :: run) :: others, place + 1, true)
        else ([c] :: runs, place + 1, true)
      | [] => ([[c]], place + 1, true)
    else (runs, place + 1, false)
  let (runs, _, _) := line.foldl step ([], 1, false)
  runs.reverse.map List.reverse

/-- Writes parts of lines. -/
def cut : Builtin :=
  withTable
    { flags := "snz^", valued := "bcfdo", mixed := true, badStatus := 1
      long := [("bytes", 'b'), ("characters", 'c'), ("fields", 'f'), ("delimiter", 'd'),
        ("only-delimited", 's'), ("output-delimiter", 'o'), ("complement", '^')] }
    fun o m =>
      let complement := o.has '^'
      let lists := o.given.filter fun entry => ['b', 'c', 'f'].contains entry.1
      match lists with
      | [] => m.misuse "you must specify a list of bytes, characters, or fields"
      | _ :: _ :: _ => m.misuse "only one list may be specified"
      | [(letter, text)] =>
        let fields : Bool := letter = 'f'
        let delimiter := (o.value? 'd').getD "\t"
        if 1 < delimiter.length then m.misuse "the delimiter must be a single character"
        else if !fields && o.has 'd' then
          m.misuse "an input delimiter may be specified only when operating on fields"
        else if !fields && o.has 's' then
          m.misuse ("suppressing non-delimited lines makes sense\n" ++
            "\tonly when operating on fields")
        else match Span.readList fields text with
        | .error text => m.misuse text
        | .ok spans =>
          let chosen (place : Nat) : Bool := (spans.any fun s => s.contains place) != complement
          let mark := delimiter.toList.headD '\x00'
          let between := (o.value? 'o').getD (if fields then delimiter else "")
          let one (line : String) : Option String :=
            if fields then
              if !line.toList.contains mark then if o.has 's' then none else some line
              else
                let parts := line.splitOn (String.singleton mark)
                let kept := (parts.zipIdx 1).filter fun entry => chosen entry.2
                some (between.intercalate (kept.map Prod.fst))
            else
              let starts (place : Nat) : Bool :=
                !between.isEmpty && !complement && spans.any fun s =>
                  s.first = place && !(spans.any fun t => t.first < place && t.contains (place - 1))
              some (between.intercalate ((chosenRuns chosen starts line.toList).map String.ofList))
          let (status, m) := readFiles aboutFile
            (fun _ text m => m.print 1 (unlines ((linesOf text).filterMap one))) 1 o.files m
          m.done status

/-! ## Characters -/

/-- A part of a set of characters. -/
inductive SetPart where
  | chars (chars : List Char)
  /-- A character as often as it is needed. -/
  | filler (c : Char)
  | lower
  | upper
deriving Repr

/-- Reads a character of a set, which may be escaped. -/
def readSetChar (text : List Char) : Option (Char × List Char) :=
  match text with
  | [] => none
  | '\\' :: rest =>
    match rest with
    | [] => some ('\\', [])
    | c :: more =>
      if Decimal.isDigitOf 8 c then some (readCode 8 3 rest)
      else if c = 'e' then some ('e', more)
      else some ((escapeChar? c).getD c, more)
  | c :: rest => some (c, rest)

/-- The characters from one to another. -/
def charsThrough (first last : Char) : List Char :=
  (List.range (last.toNat - first.toNat + 1)).map fun n => Char.ofNat (first.toNat + n)

/-- Reads the parts of a set. -/
def readSet : Nat → List Char → Except String (List SetPart)
  | 0, _ => .ok []
  | fuel + 1, text => do
    let classEnd (mark : Char) (rest : List Char) : Option (List Char × List Char) :=
      let name := rest.takeWhile (· ≠ mark)
      match rest.drop name.length with
      | c :: ']' :: behind => if c = mark then some (name, behind) else none
      | _ => none
    let plain (text : List Char) : Except String (List SetPart) := do
      match readSetChar text with
      | none => return []
      | some (first, rest) =>
        match rest with
        | '-' :: d :: more =>
          match readSetChar (d :: more) with
          | some (last, behind) =>
            if last < first then
              let taken := text.take (text.length - behind.length)
              throw ("range-endpoints of '" ++ String.ofList taken ++
                "' are in reverse collating sequence order")
            return .chars (charsThrough first last) :: (← readSet fuel behind)
          | none => return .chars [first] :: (← readSet fuel rest)
        | _ => return .chars [first] :: (← readSet fuel rest)
    match text with
    | '[' :: ':' :: rest =>
      match classEnd ':' rest with
      | some (name, behind) =>
        let others ← readSet fuel behind
        match String.ofList name with
        | "lower" => return .lower :: others
        | "upper" => return .upper :: others
        | name =>
          match characterClasses.lookup name with
          | some ranges =>
            let inOrder := ranges.mergeSort fun a b => decide (a.1 ≤ b.1)
            return .chars (inOrder.flatMap fun r => charsThrough r.1 r.2) :: others
          | none => throw ("invalid character class '" ++ name ++ "'")
      | none => plain text
    | '[' :: '=' :: rest =>
      match classEnd '=' rest with
      | some ([c], behind) => return .chars [c] :: (← readSet fuel behind)
      | _ => plain text
    | '[' :: rest =>
      match readSetChar rest with
      | some (c, '*' :: more) =>
        let digits := more.takeWhile Char.isDigit
        match more.drop digits.length with
        | ']' :: behind =>
          let count := Decimal.valueOf (if digits.head? = some '0' then 8 else 10) digits
          let part := if count = 0 then SetPart.filler c else .chars (List.replicate count c)
          return part :: (← readSet fuel behind)
        | _ => plain text
      | _ => plain text
    | text => plain text

namespace SetPart

/-- The characters of a part, where a filler has so many. -/
def expand (fill : Nat) : SetPart → List Char
  | chars cs => cs
  | filler c => List.replicate fill c
  | lower => charsThrough 'a' 'z'
  | upper => charsThrough 'A' 'Z'

/-- Whether a part is a filler. -/
def isFiller : SetPart → Bool
  | filler _ => true
  | _ => false

end SetPart

/-- The characters of a set that should have so many. -/
def setChars (count : Nat) (parts : List SetPart) : List Char :=
  let fixed := ((parts.filter fun p => !p.isFiller).map fun p => (p.expand 0).length).foldl
    (· + ·) 0
  parts.flatMap (SetPart.expand (count - fixed))

/-- Drops characters of a set that follow the same character. -/
def squeeze (isIn : Char → Bool) : List Char → List Char
  | [] => []
  | c :: rest =>
    match squeeze isIn rest with
    | d :: others => if c = d && isIn c then d :: others else c :: d :: others
    | [] => [c]

/-- Puts characters in the place of others. -/
def tr : Builtin :=
  withTable
    { flags := "cCdst", valued := "", mixed := false, badStatus := 1
      long := [("complement", 'c'), ("delete", 'd'), ("squeeze-repeats", 's'),
        ("truncate-set1", 't')] }
    fun o m =>
      let deleting := o.has 'd'
      let squeezing := o.has 's'
      let complement := o.has 'c' || o.has 'C'
      let two := if deleting then squeezing else !squeezing
      let tell (text more : String) : Flow × Machine :=
        let m := m.warn text
        let m := if more.isEmpty then m else m.complain (more ++ "\n")
        (m.complain ("Try '" ++ m.name ++ " --help' for more information.\n")).done 1
      match o.operands with
      | [] => tell "missing operand" ""
      | [one] =>
        if two then
          tell ("missing operand after '" ++ one ++ "'")
            (if deleting then
                "Two strings must be given when both deleting and squeezing repeats."
              else "Two strings must be given when translating.")
        else go o deleting squeezing complement one none m
      | [one, other] =>
        if deleting && !squeezing then
          tell ("extra operand '" ++ other ++ "'")
            "Only one string may be given when deleting without squeezing repeats."
        else go o deleting squeezing complement one (some other) m
      | _ :: _ :: extra :: _ => tell ("extra operand '" ++ extra ++ "'") ""
where
  /-- Puts characters in the place of others, given the sets. -/
  go (o : Options) (deleting squeezing complement : Bool) (one : String) (other : Option String)
      (m : Machine) : Flow × Machine :=
    match readSet (one.length + 1) one.toList, other.mapM fun s => readSet (s.length + 1) s.toList
    with
    | .error text, _ | _, .error text => m.report text 1
    | .ok first, .ok second =>
      let base := setChars 0 first
      let from_ := if complement then
          (charsThrough '\x00' '\xff').filter fun c => !base.contains c
        else base
      let onto := match second with
        | none => []
        | some parts => setChars from_.length parts
      let text := m.input.toList
      let m := m.drain
      let inFirst (c : Char) : Bool := from_.contains c
      let translating := !deleting && second.isSome
      if translating && onto.isEmpty && !o.has 't' then
        m.report "when not truncating set1, string2 must be non-empty" 1
      else
        let isCase (part : SetPart) : Bool := match part with
          | .lower | .upper => true
          | _ => false
        if translating && (second.getD []).any isCase && !first.any isCase then
          m.misuse ("when translating, the only character classes that may appear in\n" ++
            "string2 are 'upper' and 'lower'")
        else
        let last := onto.getLast?.getD '\x00'
        let change (c : Char) : Char :=
          match (from_.reverse.zip (List.range from_.length).reverse).find? (·.1 = c) with
          | none => c
          | some (_, i) => (onto[i]?).getD (if o.has 't' then c else last)
        let text := if deleting then text.filter fun c => !inFirst c
          else if translating then text.map change
          else text
        let squeezed := if squeezing then
            let set := if second.isSome then onto else from_
            squeeze set.contains text
          else text
        (m.print 1 (String.ofList squeezed)).done 0

end SmellRefactor.Shell
