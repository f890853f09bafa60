import SmellRefactor.Toml.Scan
import SmellRefactor.Toml.Value

/-!
# TOML scalars

Numbers, booleans, dates and times: the words of a document that stand without quotes.
-/

namespace SmellRefactor.Toml

open Decimal

/-- The digits of a number with its separators taken out; nothing when they do not stand between
digits. -/
def digitsOf? (base : Nat) : List Char → Option (List Char)
  | [] => none
  | [c] => if isDigitOf base c then some [c] else none
  | c :: '_' :: d :: rest =>
    if isDigitOf base c then (digitsOf? base (d :: rest)).map (c :: ·) else none
  | c :: rest => if isDigitOf base c then (digitsOf? base rest).map (c :: ·) else none

/-- The digits of a whole part: as `digitsOf?`, without a leading zero. -/
def wholeOf? (text : List Char) : Option (List Char) :=
  match digitsOf? 10 text with
  | some ('0' :: _ :: _) => none
  | other => other

/-- The sign of a number and what follows it. -/
def splitSign : List Char → Bool × List Char
  | '-' :: rest => (true, rest)
  | '+' :: rest => (false, rest)
  | rest => (false, rest)

/-- A whole number. -/
def integer? (text : List Char) : Option Int :=
  match text with
  | '0' :: 'x' :: more => (digitsOf? 16 more).map fun ds => valueOf 16 ds
  | '0' :: 'o' :: more => (digitsOf? 8 more).map fun ds => valueOf 8 ds
  | '0' :: 'b' :: more => (digitsOf? 2 more).map fun ds => valueOf 2 ds
  | _ =>
    let (negative, more) := splitSign text
    (wholeOf? more).map fun ds => if negative then -(valueOf 10 ds : Int) else valueOf 10 ds

/-- The value of an exponent with its optional sign. -/
def exponent? (text : List Char) : Option Int :=
  let (negative, more) := splitSign text
  (digitsOf? 10 more).map fun ds => if negative then -(valueOf 10 ds : Int) else valueOf 10 ds

/-- A number with a fraction or an exponent, or one of the special words. -/
def float? (text : List Char) : Option Binary64 :=
  let (negative, more) := splitSign text
  if more = ['i', 'n', 'f'] then some (.infinite negative)
  else if more = ['n', 'a', 'n'] then some .undefined
  else
    let isMark (c : Char) : Bool := c == 'e' || c == 'E'
    let mantissa := more.takeWhile fun c => !isMark c
    let tail := more.dropWhile fun c => !isMark c
    let whole := mantissa.takeWhile (· != '.')
    let fraction := mantissa.dropWhile (· != '.')
    match wholeOf? whole, fraction, tail with
    | some _, [], [] => none
    | some ds, [], _ :: e => (exponent? e).map fun e => .ofDecimal negative (valueOf 10 ds) e
    | some ds, _ :: f, [] =>
      (digitsOf? 10 f).map fun fs =>
        .ofDecimal negative (valueOf 10 (ds ++ fs)) (-(fs.length : Int))
    | some ds, _ :: f, _ :: e =>
      match digitsOf? 10 f, exponent? e with
      | some fs, some e =>
        some (.ofDecimal negative (valueOf 10 (ds ++ fs)) (e - (fs.length : Int)))
      | _, _ => none
    | none, _, _ => none

/-- The number written by exactly so many digits, and what follows. -/
def fixedDigits? (count : Nat) (text : List Char) : Option (Nat × List Char) :=
  let ds := text.take count
  if ds.length = count ∧ ds.all (isDigitOf 10) then some (valueOf 10 ds, text.drop count) else none

/-- The days of a month. -/
def daysIn (year month : Nat) : Nat :=
  if month = 2 then
    if year % 4 = 0 ∧ (year % 100 ≠ 0 ∨ year % 400 = 0) then 29 else 28
  else if month = 4 ∨ month = 6 ∨ month = 9 ∨ month = 11 then 30 else 31

/-- What follows a date. -/
def afterDate? (text : List Char) : Option (List Char) := do
  let (year, rest) ← fixedDigits? 4 text
  let '-' :: rest := rest | none
  let (month, rest) ← fixedDigits? 2 rest
  let '-' :: rest := rest | none
  let (day, rest) ← fixedDigits? 2 rest
  if 1 ≤ month ∧ month ≤ 12 ∧ 1 ≤ day ∧ day ≤ daysIn year month then some rest else none

/-- What follows the seconds of a time and their fraction, if they are there. -/
def afterSeconds? (text : List Char) : Option (List Char) :=
  match text with
  | ':' :: rest =>
    match fixedDigits? 2 rest with
    | none => none
    | some (second, rest) =>
      if 60 < second then none
      else match rest with
        | '.' :: more =>
          if (more.takeWhile (isDigitOf 10)).isEmpty then none
          else some (more.dropWhile (isDigitOf 10))
        | other => some other
  | other => some other

/-- What follows a time of the day. -/
def afterTime? (text : List Char) : Option (List Char) := do
  let (hour, rest) ← fixedDigits? 2 text
  let ':' :: rest := rest | none
  let (minute, rest) ← fixedDigits? 2 rest
  if 23 < hour ∨ 59 < minute then none else afterSeconds? rest

/-- Whether a text is the distance from universal time, or nothing. -/
def isOffset (text : List Char) : Bool :=
  match text with
  | [] => true
  | ['Z'] => true
  | ['z'] => true
  | sign :: rest =>
    (sign == '+' || sign == '-') &&
      match fixedDigits? 2 rest with
      | some (hour, ':' :: more) =>
        match fixedDigits? 2 more with
        | some (minute, []) => hour ≤ 23 && minute ≤ 59
        | _ => false
      | _ => false

/-- Whether a text is a date, a time, or both. -/
def isDateTime (text : List Char) : Bool :=
  match afterDate? text with
  | some [] => true
  | some (mark :: rest) =>
    (mark == 'T' || mark == 't' || mark == ' ') &&
      match afterTime? rest with
      | some offset => isOffset offset
      | none => false
  | none => afterTime? text == some []

/-- Whether a character may stand in a word without quotes. -/
def isWord (c : Char) : Bool := isBare c || c == '+' || c == '.' || c == ':'

/-- The word at the beginning of a text.  A date may be followed by a time behind a space. -/
def takeWord (rest : List Char) : List Char × List Char :=
  let word := rest.takeWhile isWord
  let after := rest.dropWhile isWord
  match afterDate? word, after with
  | some [], ' ' :: c :: more =>
    if isDigitOf 10 c then
      (word ++ ' ' :: (c :: more).takeWhile isWord, (c :: more).dropWhile isWord)
    else (word, after)
  | _, _ => (word, after)

/-- Reads a value that stands without quotes.  A whole number has at most 128 bits, of which one is
the sign when it is negative. -/
def readScalar (rest : List Char) : Step (Value × List Char) :=
  let (word, after) := takeWord rest
  if word.isEmpty then .error (.missingValue, rest)
  else if word = ['t', 'r', 'u', 'e'] then .ok (.boolean true, after)
  else if word = ['f', 'a', 'l', 's', 'e'] then .ok (.boolean false, after)
  else if isDateTime word then .ok (.dateTime, after)
  else match integer? word with
    | some n =>
      if -(twoTo 127 : Int) ≤ n ∧ n < twoTo 128 then .ok (.integer n, after)
      else .error (.integerOutOfRange, rest)
    | none =>
      match float? word with
      | some x =>
        if x.isFinite ∨ x = .undefined ∨ word.contains 'n' then .ok (.float x, after)
        else .error (.floatOutOfRange, rest)
      | none => .error (.invalidValue, rest)

end SmellRefactor.Toml
