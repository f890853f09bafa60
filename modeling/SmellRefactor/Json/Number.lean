import SmellRefactor.Decimal.Binary64
import SmellRefactor.Json.Cursor

/-!
# JSON numbers

A number without fraction and exponent that fits into 64 bits stays whole; every other number is
read as a double.  The digits are gathered into a 64-bit significand as long as they fit, and the
significand is then scaled by one rounded multiplication or division by a power of ten.
-/

namespace SmellRefactor.Json

open Decimal

/-- A number as it was read. -/
inductive Numeral where
  | natural (value : Nat)
  | negative (magnitude : Nat)
  | float (value : Binary64)
deriving DecidableEq, Repr

/-- What a number is called in messages. -/
def Numeral.found : Numeral → Found
  | natural n => .integer n
  | negative n => .integer (-(n : Int))
  | float x => .float x

/-- Whether a character is a decimal digit. -/
def isDigit (c : Char) : Bool := '0' ≤ c && c ≤ '9'

/-- The digits at the cursor, and the cursor behind them. -/
def takeDigits (c : Cursor) : List Char × Cursor :=
  let rec go : List Char → Position → List Char × Cursor
    | [], p => ([], ⟨[], p⟩)
    | ch :: rest, p =>
      if isDigit ch then
        let (ds, c) := go rest (p.after ch)
        (ch :: ds, c)
      else ([], ⟨ch :: rest, p⟩)
  go c.rest c.position

/-- Appends digits to a number while it stays within `bound`; also gives the digits left over. -/
def gather (bound : Nat) : Nat → List Char → Nat × List Char
  | n, [] => (n, [])
  | n, d :: ds =>
    let more := n * 10 + (d.toNat - '0'.toNat)
    if bound < more then (n, d :: ds) else gather bound more ds

/-- Scales a double by a power of ten; nothing when the result is out of range.  Three steps are
enough for any exponent, since dividing twice by `10 ^ 308` leaves zero. -/
def scale : Nat → Binary64 → Int → Option Binary64
  | 0, x, _ => some x
  | fuel + 1, x, exponent =>
    if exponent.natAbs ≤ 308 then
      let power := Binary64.ofDecimal false 1 exponent.natAbs
      if 0 ≤ exponent then
        let y := x.times power
        if y.isFinite then some y else none
      else some (x.quotient power)
    else if x.isZero then some x
    else if 0 ≤ exponent then none
    else scale fuel (x.quotient (Binary64.ofDecimal false 1 308)) (exponent + 308)

/-- The double `significand * 10 ^ exponent`, or a problem at the cursor. -/
def finishFloat (negative : Bool) (significand : Nat) (exponent : Int) (c : Cursor) :
    Except Error (Numeral × Cursor) :=
  match scale 4 (Binary64.ofNat significand) exponent with
  | some x => .ok (.float (x.withSign negative), c)
  | none => c.fail .numberOutOfRange

/-- The greatest exponent that is kept as a number. -/
def maxExponent : Nat := twoTo 31 - 1

/-- Reads an exponent whose letter stands at the cursor. -/
def readExponent (negative : Bool) (significand : Nat) (exponent : Int) (c : Cursor) :
    Except Error (Numeral × Cursor) :=
  let c := c.next
  let (positive, c) := match c.rest with
    | '+' :: _ => (true, c.next)
    | '-' :: _ => (false, c.next)
    | _ => (true, c)
  match c.rest with
  | [] => c.fail .endInValue
  | ch :: _ =>
    if !isDigit ch then .error ⟨.invalidNumber, c.position.afterByte ch⟩
    else
      let (ds, c') := takeDigits c
      let (power, left) := gather maxExponent 0 ds
      if left.isEmpty then
        finishFloat negative significand
          (if positive then exponent + power else exponent - power) c'
      else if significand ≠ 0 ∧ positive then
        .error ⟨.numberOutOfRange,
          ⟨c.position.line, c.position.column + (ds.length - left.length) + 1⟩⟩
      else .ok (.float (.finite negative 0 Binary64.leastExponent), c')

/-- Reads what may follow the whole part of a number. -/
def readTail (negative : Bool) (significand : Nat) (skipped : Nat) (c : Cursor) :
    Except Error (Numeral × Cursor) :=
  match c.rest with
  | '.' :: _ =>
    let c := c.next
    let (ds, c) := takeDigits c
    if ds.isEmpty then
      if c.rest.isEmpty then c.failNext .endInValue else c.failNext .invalidNumber
    else
      let (significand, left) := gather maxWord significand ds
      let exponent : Int := (skipped : Int) - ((ds.length - left.length : Nat) : Int)
      match c.rest with
      | 'e' :: _ => readExponent negative significand exponent c
      | 'E' :: _ => readExponent negative significand exponent c
      | _ => finishFloat negative significand exponent c
  | 'e' :: _ => readExponent negative significand skipped c
  | 'E' :: _ => readExponent negative significand skipped c
  | _ =>
    if skipped ≠ 0 then finishFloat negative significand skipped c
    else if !negative then .ok (.natural significand, c)
    else if significand = 0 then .ok (.float (.finite true 0 Binary64.leastExponent), c)
    else if significand ≤ twoTo 63 then .ok (.negative significand, c)
    else .ok (.float ((Binary64.ofNat significand).withSign true), c)

/-- Reads a number behind its sign. -/
def readNumber (negative : Bool) : Reader Numeral := fun c =>
  match c.rest with
  | [] => c.fail .endInValue
  | '0' :: _ =>
    let c := c.next
    match c.rest with
    | ch :: _ => if isDigit ch then c.failNext .invalidNumber else readTail negative 0 0 c
    | [] => readTail negative 0 0 c
  | ch :: _ =>
    if isDigit ch then
      let (ds, c) := takeDigits c
      let (significand, left) := gather maxWord 0 ds
      readTail negative significand left.length c
    else .error ⟨.invalidNumber, c.position.afterByte ch⟩

/-- Skips the exponent of a number that is not needed. -/
def skipExponent (c : Cursor) : Except Error Cursor :=
  let c := c.next
  let c := match c.rest with
    | '+' :: _ => c.next
    | '-' :: _ => c.next
    | _ => c
  match c.rest with
  | [] => c.fail .invalidNumber
  | ch :: _ =>
    if isDigit ch then .ok (takeDigits c).2
    else .error ⟨.invalidNumber, c.position.afterByte ch⟩

/-- Skips what may follow the whole part of a number that is not needed. -/
def skipTail (c : Cursor) : Except Error Cursor :=
  match c.rest with
  | '.' :: _ =>
    let (ds, c) := takeDigits c.next
    if ds.isEmpty then c.failNext .invalidNumber
    else match c.rest with
      | 'e' :: _ => skipExponent c
      | 'E' :: _ => skipExponent c
      | _ => .ok c
  | 'e' :: _ => skipExponent c
  | 'E' :: _ => skipExponent c
  | _ => .ok c

/-- Skips a number that is not needed, behind its sign; only its form is checked. -/
def skipNumber (c : Cursor) : Except Error Cursor :=
  match c.rest with
  | [] => c.fail .invalidNumber
  | '0' :: _ =>
    let c := c.next
    match c.rest with
    | ch :: _ => if isDigit ch then c.failNext .invalidNumber else skipTail c
    | [] => skipTail c
  | ch :: _ =>
    if isDigit ch then skipTail (takeDigits c).2
    else .error ⟨.invalidNumber, c.position.afterByte ch⟩

end SmellRefactor.Json
