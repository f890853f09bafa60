import Std.Data.HashMap
import SmellRefactor.Shell.Expression.Reader
import SmellRefactor.Shell.Format
import SmellRefactor.Shell.Utility.Rules.Number
import SmellRefactor.Shell.Utility.Rules.Program

/-!
# The values of programs of rules

A value is a number or a text; a text that comes from the input counts as a number where it looks
like one.  Tables hold values under texts.
-/

namespace SmellRefactor.Shell.Rules

open Decimal

/-- A value. -/
inductive Value where
  | unset
  | number (x : Binary64)
  | text (s : String)
  /-- A text from the input. -/
  | input (s : String)
deriving Inhabited

/-! ## Layout -/

/-- Why values cannot be laid out. -/
inductive LayoutProblem where
  | tooFew
  /-- The conversion with a number is none. -/
  | improper (number : Nat)

/-- The least and the greatest whole number that are written without an exponent. -/
def wholeBounds : Int × Int := (-(twoTo 63 : Int), (twoTo 64 : Int) - 1)

namespace Value

/-- The number with which a text begins, or zero. -/
def numberIn (s : String) : Binary64 := ((readReal s.toList).map Prod.fst).getD .zero

/-- What a value is as a number. -/
def toNumber : Value → Binary64
  | unset => .zero
  | number x => x
  | text s | input s => numberIn s

/-- What a value is as a whole number. -/
def toWhole (v : Value) : Int :=
  (v.toNumber.clamped? (-(twoTo 63 : Int)) ((twoTo 63 : Int) - 1)).getD 0

/-- Whether a text looks like a number. -/
def looksNumeric (s : String) : Bool :=
  let isBlank (c : Char) : Bool := c = ' ' || c = '\t' || c = '\n'
  let chars := s.toList.dropWhile isBlank
  chars.head?.any (fun c => c.isDigit || c = '+' || c = '-' || c = '.') &&
    match readReal chars with
    | some (_, rest) => rest.all isBlank
    | none => false

/-- What a value is as a number, if it counts as one where values are compared. -/
def asNumber? : Value → Option Binary64
  | unset => some .zero
  | number x => some x
  | text _ => none
  | input s => if looksNumeric s then some (numberIn s) else none

/-- Whether a value counts as true. -/
def isTrue : Value → Bool
  | unset => false
  | number x => !x.isZero
  | text s => !s.isEmpty
  | input s => if looksNumeric s then !(numberIn s).isZero else !s.isEmpty

/-- The value of a condition. -/
def ofBool (b : Bool) : Value := number (.ofBool b)

/-- A whole number as a value. -/
def ofNat (n : Nat) : Value := number (.ofNat n)

/-- One value in the notation of a conversion; nothing if there is no such conversion. -/
def laidOut? (textOf : Value → String) (layout : Layout) (kind : Char) (v : Value) :
    Option (List Char) :=
  if kind = 's' then some (layout.text (textOf v).toList)
  else if kind = 'c' then
    let c := match v with
      | number _ => Char.ofNat (v.toWhole % 256).toNat
      | v => ((textOf v).toList.head?).getD '\x00'
    some (layout.text [c])
  else if kind = 'd' || kind = 'i' then
    some (layout.integer 'd' ((v.toNumber.clamped? wholeBounds.1 wholeBounds.2).getD 0))
  else if ['o', 'x', 'X', 'u'].contains kind then
    some (layout.integer kind ((v.toNumber.clamped? wholeBounds.1 wholeBounds.2).getD 0))
  else if ['e', 'E', 'f', 'F', 'g', 'G'].contains kind then some (layout.real kind v.toNumber)
  else none

/-- The texts of values laid out by a format, and what hinders that.  `done` is what has been laid
out, the last part first, and `count` the number of conversions. -/
def layOut (textOf : Value → String) : Nat → Nat → List Char → List Value → List (List Char) →
    List (List Char) × Option LayoutProblem
  | 0, _, _, _, done => (done, none)
  | fuel + 1, count, format, values, done =>
    match format with
    | [] => (done, none)
    | '%' :: '%' :: rest => layOut textOf fuel count rest values (['%'] :: done)
    | '%' :: rest =>
      let (conversion, rest) := readConversion rest
      let (conversion, rest) := withoutSize rest.length conversion rest
      let asked := (if conversion.width.isNone then 1 else 0) +
        (if conversion.precision = some none then 1 else 0)
      let numbers := values.take asked
      let width := if conversion.width.isNone then (numbers.head?.map toWhole).getD 0 else 0
      let precision := ((numbers.drop (asked - 1)).head?.map toWhole).getD 0
      match values.drop asked with
      | [] => (done, some .tooFew)
      | v :: values =>
        let layout := conversion.layout width precision
        match conversion.kind.bind fun kind => laidOut? textOf layout kind v with
        | some chars => layOut textOf fuel (count + 1) rest values (chars :: done)
        | none => (done, some (.improper (count + 1)))
    | c :: rest => layOut textOf fuel count rest values ([c] :: done)
where
  /-- A conversion without letters that say how large its number is. -/
  withoutSize : Nat → Conversion → List Char → Conversion × List Char
    | 0, conversion, rest => (conversion, rest)
    | fuel + 1, conversion, rest =>
      match conversion.kind, rest with
      | some 'l', c :: rest | some 'h', c :: rest =>
        withoutSize fuel { conversion with kind := some c } rest
      | _, rest => (conversion, rest)

/-- The text of values laid out by a format, and what hinders that. -/
def layOutAll (textOf : Value → String) (format : String) (values : List Value) :
    String × Option LayoutProblem :=
  let (parts, problem) := layOut textOf (format.length + 1) 0 format.toList values []
  (String.ofList parts.reverse.flatten, problem)

/-- The text of a number: whole ones are written as they are, all others by a format. -/
def numberText (format : String) (x : Binary64) : String :=
  match x with
  | .undefined => "-nan"
  | x =>
    match x.whole?.filter fun n => wholeBounds.1 ≤ n && n ≤ wholeBounds.2 with
    | some n => integerText n
    | none => (layOutAll (fun _ => "") format [number x]).1

/-- What a value is as a text, where numbers are written by a format. -/
def toText (format : String) : Value → String
  | unset => ""
  | number x => numberText format x
  | text s | input s => s

/-- How two values are ordered: as numbers if both count as such, and as texts otherwise. -/
def order (format : String) (a b : Value) : Ordering :=
  match a.asNumber?, b.asNumber? with
  | some x, some y => (x.compare? y).getD .eq
  | _, _ => compare (a.toText format) (b.toText format)

end Value

/-! ## Separators -/

/-- What stands between the parts of a text. -/
inductive Separator where
  | blanks
  /-- Nothing: each character is a part. -/
  | nothing
  | character (c : Char)
  | expression (e : Expression)

namespace Separator

/-- The separator that a text writes. -/
def ofText (s : String) : Except Expression.Problem Separator :=
  match s.toList with
  | [] => .ok nothing
  | [' '] => .ok blanks
  | [c] => .ok (character c)
  | chars => (Expression.ofString .ofRules chars).map expression

/-- The leftmost match of an expression behind a place that is not empty. -/
def solidMatch? (e : Expression) (s : Subject) : Nat → Nat → Option (Nat × Nat)
  | 0, _ => none
  | fuel + 1, place =>
    match e.find? s place with
    | none => none
    | some (start, state) =>
      if start < state.position then some (start, state.position)
      else if s.text.size ≤ start then none
      else solidMatch? e s fuel (start + 1)

/-- The parts of a text between the matches of an expression. -/
def betweenMatches (e : Expression) (s : Subject) : Nat → Nat → List (List Char)
  | 0, place => [s.slice place s.text.size]
  | fuel + 1, place =>
    match solidMatch? e s (s.text.size + 1) place with
    | none => [s.slice place s.text.size]
    | some (start, stop) => s.slice place start :: betweenMatches e s fuel stop

/-- The parts of a text between blanks; `word` is a part that has begun, backwards. -/
def betweenBlanks : List Char → List Char → List (List Char)
  | [], [] => []
  | word, [] => [word.reverse]
  | word, c :: rest =>
    if c = ' ' || c = '\t' || c = '\n' then
      if word.isEmpty then betweenBlanks [] rest else word.reverse :: betweenBlanks [] rest
    else betweenBlanks (c :: word) rest

/-- The parts of a text. -/
def parts (separator : Separator) (text : List Char) : List String :=
  let found : List (List Char) :=
    if text.isEmpty then []
    else match separator with
    | blanks => betweenBlanks [] text
    | nothing => text.map fun c => [c]
    | character c => text.splitOn c
    | expression e => betweenMatches e ⟨text.toArray, false, false⟩ text.length 0
  found.map String.ofList

/-- The first record of a text, and what is left of the text; without a separator records stand
between empty lines. -/
def record? (separator : Separator) (text : List Char) : Option (String × List Char) :=
  if text.isEmpty then none
  else match separator with
  | nothing =>
    match paragraph [] (text.dropWhile (· = '\n')) with
    | ([], _) => none
    | (chars, rest) => some (String.ofList chars, rest)
  | blanks => some (upTo ' ' text)
  | character c => some (upTo c text)
  | expression e =>
    let s : Subject := ⟨text.toArray, false, false⟩
    match solidMatch? e s (s.text.size + 1) 0 with
    | none => some (String.ofList text, [])
    | some (start, stop) => some (String.ofList (text.take start), text.drop stop)
where
  /-- What stands before a character and what stands behind it. -/
  upTo (c : Char) (text : List Char) : String × List Char :=
    let record := text.takeWhile (· ≠ c)
    (String.ofList record, text.drop (record.length + 1))
  /-- What stands before an empty line or the end, and what stands behind it. -/
  paragraph (done : List Char) : List Char → List Char × List Char
    | [] => (done.reverse, [])
    | ['\n'] => (done.reverse, [])
    | '\n' :: '\n' :: rest => (done.reverse, rest.dropWhile (· = '\n'))
    | c :: rest => paragraph (c :: done) rest

end Separator

/-! ## Replacements -/

/-- A part of what is put in for a match. -/
inductive Insertion where
  | letter (c : Char)
  | found

/-- What is put in for a match, as a text writes it: `&` stands for the match. -/
def insertions : List Char → List Insertion
  | '\\' :: '\\' :: '&' :: rest => .letter '\\' :: .found :: insertions rest
  | '\\' :: '&' :: rest => .letter '&' :: insertions rest
  | '&' :: rest => .found :: insertions rest
  | '\\' :: '\\' :: '\\' :: '&' :: rest => .letter '\\' :: .letter '&' :: insertions rest
  | c :: rest => .letter c :: insertions rest
  | [] => []

/-- A text after one match, or all matches, of an expression behind a place have been replaced, in
parts, the last one first, and the number of the matches.  `before` is the end of the last match,
where no empty match counts. -/
def replaceMatches (all : Bool) (e : Expression) (s : Subject) (inserted : List Insertion) :
    Nat → Nat → Nat → Option Nat → List (List Char) → List (List Char) × Nat
  | 0, place, count, _, done => (s.slice place s.text.size :: done, count)
  | fuel + 1, place, count, before, done =>
    match if place ≤ s.text.size then e.find? s place else none with
    | none => (s.slice place s.text.size :: done, count)
    | some (start, state) =>
      let stop := state.position
      if start = stop && before = some start then
        let next := s.slice place (start + 1)
        replaceMatches all e s inserted fuel (start + 1) count none (next :: done)
      else
        let text := inserted.flatMap fun part => match part with
          | .letter c => [c]
          | .found => s.slice start stop
        let done := text :: s.slice place start :: done
        if !all then (s.slice stop s.text.size :: done, count + 1)
        else if start = stop then
          replaceMatches all e s inserted fuel (stop + 1) (count + 1) none
            (s.slice stop (stop + 1) :: done)
        else replaceMatches all e s inserted fuel stop (count + 1) (some stop) done

/-- A text after matches of an expression have been replaced, and their number. -/
def replaceIn (all : Bool) (e : Expression) (replacement text : String) : String × Nat :=
  let s : Subject := ⟨text.toList.toArray, false, false⟩
  let (parts, count) := replaceMatches all e s (insertions replacement.toList)
    (2 * s.text.size + 3) 0 0 none []
  (String.ofList parts.reverse.flatten, count)

/-! ## Tables -/

/-- What a table holds under a key, and when the key was last used as a text and as a number; zero
stands for never. -/
structure Entry where
  value : Value
  asText : Nat
  asNumber : Nat
deriving Inhabited

/-- A table of values.  The order in which its keys are gone through follows from when they were
used. -/
structure Table where
  entries : Std.HashMap String Entry
  /-- The number of times that keys have been used. -/
  uses : Nat
  /-- Whether all keys have been used as texts. -/
  hasTexts : Bool
  /-- Whether the table holds the parts of a text and has not been used otherwise. -/
  isList : Bool
deriving Inhabited

/-- A key: a text, or a whole number. -/
inductive Key where
  | text (s : String)
  | number (n : Int)

namespace Key

/-- The key that a value is. -/
def ofValue (format : String) (v : Value) : Key :=
  match v with
  | .number x =>
    match x.whole?.filter fun n => -(twoTo 63 : Int) < n && n < (twoTo 63 : Int) with
    | some n => number n
    | none => text (v.toText format)
  | v => text (v.toText format)

/-- The text of a key. -/
def shown : Key → String
  | text s => s
  | number n => integerText n

end Key

namespace Table

/-- A table without entries. -/
def empty : Table := ⟨∅, 0, false, false⟩

/-- The number of places among which keys are spread. -/
def width : Nat := 64

/-- The place of a text among all places. -/
def placeOf (s : String) : Nat :=
  let hash := s.toList.foldl (fun h c => ((h ^^^ c.toNat) * 16777619) % twoTo 32) 2166136261
  hash % width

/-- Texts in the order of their places, and at one place those used last first. -/
def inOrder (keys : List (Nat × Nat × String)) : List (Nat × Nat × String) :=
  keys.mergeSort fun a b => a.1 < b.1 || (a.1 = b.1 && b.2.1 ≤ a.2.1)

/-- The table after a key has been used now. -/
def mark (t : Table) (key : Key) : Table :=
  let entry := (t.entries[key.shown]?).getD ⟨.unset, 0, 0⟩
  let now := t.uses + 1
  let entry := match key with
    | .text _ => { entry with asText := now }
    | .number _ => { entry with asNumber := now }
  { t with entries := t.entries.insert key.shown entry, uses := now }

/-- The table after all its keys have also been used as texts. -/
def withTexts (t : Table) : Table :=
  if t.hasTexts then t
  else
    let keys := t.entries.toList.map fun (key, entry) =>
      (((key.toInt?.getD 0) % (width : Int)).toNat, entry.asNumber, key)
    (inOrder keys).foldl (fun t (_, _, key) => t.mark (.text key))
      { t with hasTexts := true, isList := false }

/-- The table after a key has been used, if it is `wanted` or has been there before. -/
def use (t : Table) (key : Key) (wanted : Bool) : Table :=
  let found? := t.entries[key.shown]?
  match key with
  | .text _ =>
    let t := t.withTexts
    if found?.isSome || wanted then t.mark key else t
  | .number _ =>
    if (t.isList && found?.isSome) || !(found?.isSome || wanted) then t
    else
      -- A number that has not been used as such is looked up as a text first.
      let known := found?.any fun entry => entry.asNumber ≠ 0
      let t := if t.hasTexts && !known then t.mark (.text key.shown) else t
      { t with isList := false }.mark key

/-- Whether there is an entry under a key. -/
def has (t : Table) (key : Key) : Bool := t.entries.contains key.shown

/-- What a table holds under a key. -/
def get (t : Table) (key : Key) : Value := ((t.entries[key.shown]?).map Entry.value).getD .unset

/-- The table with a value under a key. -/
def put (t : Table) (key : Key) (v : Value) : Table :=
  let t := t.use key true
  { t with entries := t.entries.modify key.shown fun entry => { entry with value := v } }

/-- The table without an entry. -/
def erase (t : Table) (key : Key) : Table :=
  let t := t.use key false
  let entries := t.entries.erase key.shown
  if entries.isEmpty then empty else { t with entries := entries }

/-- The table that holds texts under the numbers from one on. -/
def ofList (texts : List String) : Table :=
  let entries := (texts.zipIdx 1).map fun (s, i) => (toString i, (⟨.input s, 0, i⟩ : Entry))
  ⟨Std.HashMap.ofList entries, texts.length, false, true⟩

/-- The number of the entries. -/
def size (t : Table) : Nat := t.entries.size

/-- The keys, in the order in which they are gone through. -/
def keys (t : Table) : List String :=
  let keys := t.withTexts.entries.toList.map fun (key, entry) => (placeOf key, entry.asText, key)
  (inOrder keys).map fun key => key.2.2

end Table

end SmellRefactor.Shell.Rules
