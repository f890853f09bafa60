import SmellRefactor.Decimal.Binary64
import SmellRefactor.Decimal.Numeral

/-!
# The shortest decimal text of a double

`shortest` finds the fewest digits that read back as the same double and, among those, the ones
nearest to it.  The real numbers that read back as a double form an interval around it, which
contains its ends when the mantissa is even.  For each number of digits only the two neighbours of
the value on the grid of that many digits have to be tried.
-/

namespace SmellRefactor.Decimal

/-- A decimal number `digits * 10 ^ exponent`. -/
structure Scaled where
  digits : Nat
  exponent : Int
deriving DecidableEq, Repr

/-- The number of decimal digits of a number, none for zero. -/
def digitCount (n : Nat) : Nat := if n = 0 then 0 else (digits n).length

/-- The exponent of the leading decimal digit of `num / den`. -/
def leadingExponent (num den : Nat) : Int :=
  if den ≤ num then (digitCount (num / den) : Int) - 1
  else -((digitCount ((den + num - 1) / num - 1) : Nat) : Int)

/-- The neighbour of `num / den` on the grid of multiples of `10 ^ exponent` that reads back as the
double with the given mantissa; `lowerDouble` tells that the gap below is half as wide. -/
def onGrid? (num den mantissa : Nat) (lowerHalf : Bool) (exponent : Int) : Option Scaled :=
  let (a, b) := if 0 ≤ exponent then (num, den * tenTo exponent.toNat)
    else (num * tenTo (-exponent).toNat, den)
  let d := a / b
  let r := a % b
  let within (distance width : Nat) : Bool :=
    distance < width || (distance == width && mantissa % 2 == 0)
  let below := within (r * (if lowerHalf then 4 * mantissa else 2 * mantissa)) a
  let above := within ((b - r) * (2 * mantissa)) a
  if below && above then
    if 2 * r < b || (2 * r == b && d % 2 == 0) then some ⟨d, exponent⟩ else some ⟨d + 1, exponent⟩
  else if below then some ⟨d, exponent⟩
  else if above then some ⟨d + 1, exponent⟩
  else none

/-- Takes zeros off the end of the digits. -/
def stripZeros : Nat → Scaled → Scaled
  | 0, s => s
  | fuel + 1, s =>
    if s.digits % 10 = 0 ∧ s.digits ≠ 0 then stripZeros fuel ⟨s.digits / 10, s.exponent + 1⟩ else s

/-- The fewest digits that read back as `mantissa * 2 ^ exponent`, and the nearest of those. -/
def shortest (mantissa : Nat) (exponent : Int) : Scaled :=
  let num := if 0 ≤ exponent then mantissa * twoTo exponent.toNat else mantissa
  let den := if 0 ≤ exponent then 1 else twoTo (-exponent).toNat
  let lead := leadingExponent num den
  let lowerHalf := mantissa == twoTo 52 && Binary64.leastExponent < exponent
  let tries := (List.range 17).filterMap fun (n : Nat) =>
    onGrid? num den mantissa lowerHalf (lead - n)
  match tries with
  | [] => ⟨0, 0⟩
  | best :: _ => stripZeros 20 best

/-- The digits of `s` with the point at its place, and `.0` where nothing follows it. -/
def positional (s : Scaled) : List Char :=
  let ds := digits s.digits
  if 0 ≤ s.exponent then ds ++ List.replicate s.exponent.toNat '0' ++ ['.', '0']
  else
    let places := (-s.exponent).toNat
    if places < ds.length then
      ds.take (ds.length - places) ++ '.' :: ds.drop (ds.length - places)
    else '0' :: '.' :: (List.replicate (places - ds.length) '0' ++ ds)

/-- One digit before the point, the others behind it, and the exponent with its sign. -/
def scientific (s : Scaled) : List Char :=
  let ds := digits s.digits
  let e : Int := s.exponent + ds.length - 1
  let fraction := match ds.drop 1 with
    | [] => []
    | more => '.' :: more
  ds.take 1 ++ fraction ++ 'e' :: (if e < 0 then '-' else '+') :: digits e.natAbs

/-- When a number is written with an exponent instead of in positional notation. -/
structure FloatFormat where
  /-- The least exponent of the leading digit that is written positionally, if there is one. -/
  least? : Option Int
  /-- The greatest exponent of the leading digit that is written positionally, if there is one. -/
  greatest? : Option Int

namespace FloatFormat

/-- Positional from `0.00001` up to sixteen digits before the point. -/
def bounded : FloatFormat := ⟨some (-5), some 15⟩

/-- Always positional. -/
def plain : FloatFormat := ⟨none, none⟩

/-- Whether a leading exponent is written positionally. -/
def isPositional (f : FloatFormat) (e : Int) : Bool :=
  (match f.least? with | some low => decide (low ≤ e) | none => true) &&
    (match f.greatest? with | some high => decide (e ≤ high) | none => true)

/-- The text of a double. -/
def text (f : FloatFormat) : Binary64 → String
  | .undefined => "NaN"
  | .infinite negative => if negative then "-inf" else "inf"
  | .finite negative mantissa exponent =>
    let s := if mantissa = 0 then ⟨0, 0⟩ else shortest mantissa exponent
    let e : Int := s.exponent + (digits s.digits).length - 1
    let body := if f.isPositional e then positional s else scientific s
    String.ofList (if negative then '-' :: body else body)

end FloatFormat

end SmellRefactor.Decimal
