import SmellRefactor.Shell.Pattern
import SmellRefactor.Shell.Token

/-!
# Fields

What words turn into when they are filled in: fields, which fall apart at separators where nothing
is quoted.
-/

namespace SmellRefactor.Shell

/-- A field under construction: its characters, and for each of them whether it was quoted. -/
abbrev Field.Chars := List (Char × Bool)

/-- Fields that have been made, and the one that is being made, if it has begun. -/
structure Fields where
  finished : List Field.Chars
  current : Option Field.Chars
  /-- Whether the last field was ended by a blank, so that another separator belongs to its end. -/
  blankEnded : Bool
  /-- Whether nothing falls apart. -/
  whole : Bool
  /-- Whether text that stands in the word itself falls apart, too. -/
  loose : Bool

namespace Fields

/-- No field yet. -/
def start : Fields := ⟨[], none, false, false, false⟩

/-- No field yet, where everything becomes one field. -/
def single : Fields := ⟨[], none, false, true, false⟩

/-- Adds characters to the field that is being made. -/
def add (f : Fields) (chars : List Char) (quoted : Bool) : Fields :=
  { f with
    current := some (f.current.getD [] ++ chars.map fun c => (c, quoted))
    blankEnded := false }

/-- Ends the field that is being made. -/
def split (f : Fields) : Fields :=
  match f.current with
  | none => f
  | some field => { f with finished := f.finished ++ [field], current := none, blankEnded := false }

/-- Whether a character is a blank for the shell. -/
def isBlank (c : Char) : Bool := c = ' ' || c = '\t' || c = '\n'

/-- Ends a field at a separator.  Blanks that separate count once, also together with one other
separator; any other separator ends a field even if nothing stands before it. -/
def separate (f : Fields) (c : Char) : Fields :=
  if isBlank c then
    if f.current.isSome then { f.split with blankEnded := true } else f
  else if f.current.isSome then f.split
  else if f.blankEnded then { f with blankEnded := false }
  else { f with finished := f.finished ++ [[]] }

/-- Adds characters that fall apart at separators. -/
def addSplitting (f : Fields) (separators : List Char) (chars : List Char) : Fields :=
  chars.foldl (fun f c => if separators.contains c then f.separate c else f.add [c] false) f

/-- Adds texts, each as a field of its own. -/
def addEach (f : Fields) : List String → Fields
  | [] => f
  | [arg] => f.add arg.toList true
  | arg :: args => addEach (f.add arg.toList true).split args

/-- Adds texts, each as fields of its own that fall apart at separators. -/
def addEachSplitting (f : Fields) (separators : List Char) : List String → Fields
  | [] => f
  | [arg] => f.addSplitting separators arg.toList
  | arg :: args => addEachSplitting (f.addSplitting separators arg.toList).split separators args

/-- All fields. -/
def all (f : Fields) : List Field.Chars := f.split.finished

end Fields

/-- The text of a field. -/
def fieldText (field : Field.Chars) : String := String.ofList (field.map Prod.fst)

/-! ## Braces -/

/-- The pieces of a word, in which each character that is not quoted stands alone. -/
def Word.exploded (word : Word) : Word :=
  word.flatMap fun piece =>
    match piece with
    | .text content false =>
      if content.isEmpty then [piece] else content.map fun c => .text [c] false
    | piece => [piece]

/-- Whether a piece is a certain character that is not quoted. -/
def isBareChar (c : Char) : Piece → Bool
  | .text [d] false => c = d
  | _ => false

/-- The alternatives between braces, behind the opening one, and what comes behind the closing one.
-/
def splitBraces : Nat → Word → Word → List Word → Option (List Word × Word)
  | _, [], _, _ => none
  | depth, piece :: rest, current, found =>
    if isBareChar '\x7b' piece then splitBraces (depth + 1) rest (current ++ [piece]) found
    else if isBareChar '\x7d' piece then
      if depth = 0 then some (found ++ [current], rest)
      else splitBraces (depth - 1) rest (current ++ [piece]) found
    else if isBareChar ',' piece && depth = 0 then splitBraces depth rest [] (found ++ [current])
    else splitBraces depth rest (current ++ [piece]) found

/-- The whole number that a text writes. -/
def wholeNumber? (text : String) : Option Int :=
  match text.toList with
  | '+' :: digits => (String.ofList digits).toNat?.map Int.ofNat
  | _ => text.toInt?

/-- Numbers or letters from one to another. -/
def countThrough (first last step : Int) : List Int :=
  let width := step.natAbs.max 1
  let count := (last - first).natAbs / width + 1
  (List.range count).map fun (n : Nat) =>
    if first ≤ last then first + Int.ofNat (n * width) else first - Int.ofNat (n * width)

/-- A number with zeros before it up to a width. -/
def widened (width : Nat) (n : Int) : String :=
  let digits := Nat.toDigits 10 n.natAbs
  let sign := if n < 0 then ['-'] else []
  String.ofList (sign ++ List.replicate (width - sign.length - digits.length) '0' ++ digits)

/-- The texts of a sequence that is written between braces, as in `1..5`. -/
def sequenceOf (text : String) : Option (List String) :=
  let parts := text.splitOn ".."
  let step := (parts[2]?.bind wholeNumber?).getD 1
  match parts with
  | first :: last :: rest =>
    if 2 ≤ rest.length || (rest.length = 1 && (rest.head?.bind wholeNumber?).isNone) then none
    else match wholeNumber? first, wholeNumber? last with
    | some a, some b =>
      let isPadded (s : String) : Bool :=
        let digits := s.toList.dropWhile (· = '-')
        digits.head? = some '0' && 1 < digits.length
      let width := if isPadded first || isPadded last then max first.length last.length else 0
      some ((countThrough a b step).map (widened width))
    | _, _ =>
      match first.toList, last.toList with
      | [a], [b] =>
        if a.isAlpha && b.isAlpha then
          some ((countThrough a.toNat b.toNat step).map fun n =>
            String.singleton (Char.ofNat n.toNat))
        else none
      | _, _ => none
  | _ => none

/-- The words that a word with braces stands for. -/
def Word.braced : Nat → Word → List Word
  | 0, word => [word]
  | fuel + 1, word =>
    let before := word.takeWhile fun piece => !isBareChar '\x7b' piece
    match word.dropWhile fun piece => !isBareChar '\x7b' piece with
    | [] => [word]
    | opening :: inner =>
      let unchanged := ((braced fuel inner).map fun w => before ++ opening :: w)
      match splitBraces 0 inner [] [] with
      | none => unchanged
      | some ([single], rest) =>
        match (Word.joined single).bare?.bind sequenceOf with
        | some texts =>
          texts.flatMap fun text =>
            (braced fuel rest).map fun w => before ++ .text text.toList false :: w
        | none => unchanged
      | some (alternatives, rest) =>
        alternatives.flatMap fun alternative =>
          (braced fuel (alternative ++ rest)).map fun w => before ++ w

/-- The words that a word stands for, where braces have a meaning. -/
def Word.withBraces (word : Word) : List Word :=
  let pieces := word.exploded
  if pieces.any (isBareChar '\x7b') then
    (Word.braced (pieces.length + 8) pieces).map fun w => (withoutEmpty w).joined
  else [word]
where
  /-- Drops text that is empty and not quoted. -/
  withoutEmpty (word : Word) : Word :=
    word.filter fun piece => match piece with
      | .text [] false => false
      | _ => true

end SmellRefactor.Shell
