import SmellRefactor.Decimal.Binary64
import SmellRefactor.Shell.ByteText

/-!
# Layout of values

How a number or a text is laid out by a conversion such as `%-5.2f`: flags, a width that is filled
up, and a precision.  Real numbers are written exactly and rounded once, a tie to the even digit.
-/

namespace SmellRefactor.Shell

open Decimal

/-- How a value is laid out. -/
structure Layout where
  flags : List Char
  width : Nat
  precision : Option Nat
deriving Repr, Inhabited

namespace Layout

/-- A layout that adds nothing. -/
def plain : Layout := ⟨[], 0, none⟩

/-- Whether a flag is set. -/
def has (l : Layout) (flag : Char) : Bool := l.flags.contains flag

/-- Fills a text up to the width; zeros stand behind the given beginning, blanks before it. -/
def fill (l : Layout) (zeros : Bool) (start text : List Char) : List Char :=
  let missing := l.width - (start.length + text.length)
  if l.has '-' then start ++ text ++ List.replicate missing ' '
  else if zeros then start ++ List.replicate missing '0' ++ text
  else List.replicate missing ' ' ++ start ++ text

/-- A text, cut off at the precision. -/
def text (l : Layout) (s : List Char) : List Char :=
  l.fill false [] ((l.precision.map s.take).getD s)

/-- The sign before a number. -/
def sign (l : Layout) (negative : Bool) : List Char :=
  if negative then ['-'] else if l.has '+' then ['+'] else if l.has ' ' then [' '] else []

/-- A whole number in the notation of a conversion; numbers without a sign have 64 bits. -/
def integer (l : Layout) (kind : Char) (n : Int) : List Char :=
  let signed := kind = 'd' || kind = 'i'
  let word : Nat := if signed then n.natAbs else (n % Int.ofNat (twoTo 64)).toNat
  let base := match kind with
    | 'o' => 8
    | 'x' | 'X' => 16
    | _ => 10
  let digits := if word = 0 && l.precision = some 0 then [] else Nat.toDigits base word
  let digits := if kind = 'X' then digits.map Char.toUpper else digits
  let digits := List.replicate (l.precision.getD 0 - digits.length) '0' ++ digits
  let digits := if kind = 'o' && l.has '#' && digits.head? ≠ some '0' then '0' :: digits else digits
  let start := if signed then l.sign (n < 0)
    else if l.has '#' && word ≠ 0 && base = 16 then ['0', kind] else []
  l.fill (l.has '0' && l.precision.isNone) start digits

/-- The whole number nearest to `mantissa * 2 ^ exponent * 10 ^ shift`. -/
def scaled (mantissa : Nat) (exponent shift : Int) : Nat :=
  let num := mantissa * twoTo exponent.toNat * tenTo shift.toNat
  let den := twoTo (-exponent).toNat * tenTo (-shift).toNat
  Binary64.roundQuotient num den

/-- A text of digits with a point before the last ones. -/
def pointed (places : Nat) (keepPoint : Bool) (n : Nat) : List Char :=
  let digits := Nat.toDigits 10 n
  let digits := List.replicate (places + 1 - digits.length) '0' ++ digits
  let whole := digits.take (digits.length - places)
  if places = 0 then if keepPoint then whole ++ ['.'] else whole
  else whole ++ '.' :: digits.drop (digits.length - places)

/-- The exponent of ten of the first digit of a number that is not zero. -/
def order (mantissa : Nat) (exponent : Int) : Int :=
  let num := mantissa * twoTo exponent.toNat
  let den := twoTo (-exponent).toNat
  if den ≤ num then (Nat.toDigits 10 (num / den)).length - 1
  else
    -- The reciprocal rounded up has as many digits as there are places to the first digit.
    -((Nat.toDigits 10 ((den + num - 1) / num - 1)).length : Int)

/-- The digits of a number as a whole number with so many places behind the first digit, and the
exponent of ten of the first digit. -/
def significant (mantissa : Nat) (exponent : Int) (places : Nat) : Nat × Int :=
  if mantissa = 0 then (0, 0)
  else
    let first := order mantissa exponent
    let n := scaled mantissa exponent (places - first)
    if n = tenTo (places + 1) then (tenTo places, first + 1) else (n, first)

/-- The text of an exponent of ten. -/
def exponentText (first : Int) : List Char :=
  let digits := Nat.toDigits 10 first.natAbs
  'e' :: (if first < 0 then '-' else '+') :: (if digits.length < 2 then '0' :: digits else digits)

/-- The text without the zeros at its end, and without a point at its end. -/
def withoutZeros (text : List Char) : List Char :=
  if text.contains '.' then
    let text := (text.reverse.dropWhile (· = '0')).reverse
    if text.getLast? = some '.' then text.dropLast else text
  else text

/-- A number in base sixteen with an exponent of two. -/
def hexadecimal (mantissa : Nat) (exponent : Int) : List Char :=
  if mantissa = 0 then "0x0p+0".toList
  else
    let bits := mantissa.log2
    let fraction := mantissa * twoTo (52 - bits) - twoTo 52
    let digits := Nat.toDigits 16 fraction
    let digits := List.replicate (13 - digits.length) '0' ++ digits
    let digits := (digits.reverse.dropWhile (· = '0')).reverse
    let power : Int := exponent + bits
    "0x1".toList ++ (if digits.isEmpty then [] else '.' :: digits) ++
      'p' :: (if power < 0 then '-' else '+') :: Nat.toDigits 10 power.natAbs

/-- The digits of a number that is not negative, in the notation of a conversion. -/
def realDigits (l : Layout) (kind : Char) (mantissa : Nat) (exponent : Int) : List Char :=
  let places := l.precision.getD 6
  let scientific (places : Nat) : List Char :=
    let (n, first) := significant mantissa exponent places
    pointed places (l.has '#') n ++ exponentText first
  match kind with
  | 'f' | 'F' => pointed places (l.has '#') (scaled mantissa exponent places)
  | 'e' => scientific places
  | 'a' => hexadecimal mantissa exponent
  | _ =>
    let wanted := max places 1
    let (n, first) := significant mantissa exponent (wanted - 1)
    let trim (text : List Char) : List Char := if l.has '#' then text else withoutZeros text
    if -4 ≤ first && first < wanted then
      let behind := ((wanted : Int) - 1 - first).toNat
      trim (pointed behind (l.has '#') (scaled mantissa exponent behind))
    else trim (pointed (wanted - 1) (l.has '#') n) ++ exponentText first

/-- A real number in the notation of a conversion. -/
def real (l : Layout) (kind : Char) (x : Binary64) : List Char :=
  let upper := kind.isUpper
  let cased (text : List Char) : List Char := if upper then text.map Char.toUpper else text
  match x with
  | .finite negative mantissa exponent =>
    l.fill (l.has '0') (l.sign negative) (cased (l.realDigits kind.toLower mantissa exponent))
  | .infinite negative => l.fill false (l.sign negative) (cased "inf".toList)
  | .undefined => l.fill false (l.sign false) (cased "nan".toList)

end Layout

/-! ## Reading real numbers -/

/-- Whether a text begins with a word in either case, and what comes behind it. -/
def dropWord? (word : String) (text : List Char) : Option (List Char) :=
  if (text.take word.length).map Char.toLower = word.toList then some (text.drop word.length)
  else none

/-- The digits of a base before and behind a point, with what comes behind them. -/
def readDigits (base : Nat) (text : List Char) : List Char × List Char × List Char :=
  let isOne := isDigitOf base
  let whole := text.takeWhile isOne
  match text.dropWhile isOne with
  | '.' :: rest => (whole, rest.takeWhile isOne, rest.dropWhile isOne)
  | rest => (whole, [], rest)

/-- The exponent behind a letter, and what comes behind it. -/
def readExponent (letter : Char) (text : List Char) : Int × List Char :=
  match text with
  | c :: rest =>
    if c.toLower ≠ letter then (0, text)
    else
      let (negative, digits) := match rest with
        | '-' :: digits => (true, digits)
        | '+' :: digits => (false, digits)
        | digits => (false, digits)
      let n : Int := valueOf 10 (digits.takeWhile Char.isDigit)
      if digits.head?.any Char.isDigit then
        (if negative then -n else n, digits.dropWhile Char.isDigit)
      else (0, text)
  | [] => (0, [])

/-- The real number with which a text begins behind blanks, and what comes behind it; nothing if it
begins with no number. -/
def readReal (text : List Char) : Option (Binary64 × List Char) :=
  let text := text.dropWhile fun c => c = ' ' || ('\t' ≤ c && c ≤ '\r')
  let (negative, text) := match text with
    | '-' :: rest => (true, rest)
    | '+' :: rest => (false, rest)
    | rest => (false, rest)
  let ten : Option (Binary64 × List Char) :=
    let (whole, behind, rest) := readDigits 10 text
    if whole.isEmpty && behind.isEmpty then none
    else
      let (exponent, rest) := readExponent 'e' rest
      some (.ofDecimal negative (valueOf 10 (whole ++ behind)) (exponent - behind.length), rest)
  match dropWord? "infinity" text, dropWord? "inf" text, dropWord? "nan" text, text with
  | some rest, _, _, _ | none, some rest, _, _ => some (.infinite negative, rest)
  | none, none, some rest, _ => some (.undefined, rest)
  | none, none, none, '0' :: x :: digits =>
    let (whole, behind, rest) := readDigits 16 digits
    if (x = 'x' || x = 'X') && !(whole.isEmpty && behind.isEmpty) then
      let (exponent, rest) := readExponent 'p' rest
      let shift := exponent - 4 * (behind.length : Int)
      some (.round negative (valueOf 16 (whole ++ behind)) 1 shift, rest)
    else ten
  | none, none, none, _ => ten

/-! ## Conversions -/

/-- A conversion in a format: its flags, its width and precision, which may be given by arguments,
and the character that says what is converted. -/
structure Conversion where
  flags : List Char
  /-- The width, if it is not given by an argument. -/
  width : Option Nat
  /-- The precision, if there is one, and if it is not given by an argument. -/
  precision : Option (Option Nat)
  /-- What is written in the format behind the percent sign, up to the kind. -/
  source : List Char
  /-- The character that says what is converted, if the format does not end before it. -/
  kind : Option Char
deriving Repr

/-- Reads a conversion behind its percent sign. -/
def readConversion (text : List Char) : Conversion × List Char :=
  let isFlag (c : Char) : Bool := ['-', '0', '+', ' ', '#'].contains c
  let flags := text.takeWhile isFlag
  let rest := text.dropWhile isFlag
  let number (rest : List Char) : Option Nat × List Char :=
    match rest with
    | '*' :: rest => (none, rest)
    | rest => (some (valueOf 10 (rest.takeWhile Char.isDigit)), rest.dropWhile Char.isDigit)
  let (width, rest) := number rest
  let (precision, rest) := match rest with
    | '.' :: rest =>
      let (precision, rest) := number rest
      (some precision, rest)
    | rest => (none, rest)
  let source := text.take (text.length - rest.length)
  (⟨flags, width, precision, source, rest.head?⟩, rest.tail)

namespace Conversion

/-- The layout of a conversion, given the numbers of the arguments that it asks for. -/
def layout (c : Conversion) (width precision : Int) : Layout :=
  let flags := if c.width.isNone && width < 0 then '-' :: c.flags else c.flags
  ⟨flags, c.width.getD width.natAbs,
    match c.precision with
    | none => none
    | some (some n) => some n
    | some none => if precision < 0 then none else some precision.toNat⟩

end Conversion

end SmellRefactor.Shell
