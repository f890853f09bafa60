import SmellRefactor.Decimal.Numeral

/-!
# Doubles

Numbers with a sign, a mantissa of at most 53 bits and a binary exponent, as exact pairs of whole
numbers.  `Binary64.round` takes a quotient of whole numbers to the nearest double, a tie to the
even mantissa; products, quotients and decimal numbers are rounded through it.
-/

namespace SmellRefactor.Decimal

/-- A double: `mantissa * 2 ^ exponent` with a sign, an infinity, or no number at all. -/
inductive Binary64 where
  | finite (negative : Bool) (mantissa : Nat) (exponent : Int)
  | infinite (negative : Bool)
  | undefined
deriving DecidableEq, Repr, Inhabited

namespace Binary64

/-- The smallest exponent of a double. -/
def leastExponent : Int := -1074

/-- The greatest exponent of a double with a full mantissa. -/
def greatestExponent : Int := 971

/-- The quotient `num / den` rounded to a whole number, a tie to the even one. -/
def roundQuotient (num den : Nat) : Nat :=
  let q := num / den
  let r := num % den
  if 2 * r < den then q
  else if den < 2 * r then q + 1
  else if q % 2 = 0 then q else q + 1

/-- The double nearest to `num / den * 2 ^ shift`. -/
def round (negative : Bool) (num den : Nat) (shift : Int) : Binary64 :=
  if num = 0 then finite negative 0 leastExponent
  else
    -- An exponent that leaves 53 or 54 bits before the point; one correction makes it 53.
    let guess : Int := shift + (num.log2 : Int) - (den.log2 : Int) - 53
    let scaled (e : Int) : Nat × Nat :=
      let up := shift - e
      if 0 ≤ up then (num * twoTo up.toNat, den) else (num, den * twoTo (-up).toNat)
    let narrow := scaled guess
    let fit := if narrow.1 / narrow.2 < twoTo 53 then guess else guess + 1
    let exponent := max leastExponent fit
    let final := scaled exponent
    let mantissa := roundQuotient final.1 final.2
    let (mantissa, exponent) :=
      if mantissa = twoTo 53 then (twoTo 52, exponent + 1) else (mantissa, exponent)
    if greatestExponent < exponent then infinite negative else finite negative mantissa exponent

/-- The double nearest to a whole number. -/
def ofNat (n : Nat) : Binary64 := round false n 1 0

/-- The double nearest to `digits * 10 ^ exponent`. -/
def ofDecimal (negative : Bool) (digits : Nat) (exponent : Int) : Binary64 :=
  let order : Int := (Nat.toDigits 10 digits).length + exponent
  if digits = 0 then finite negative 0 leastExponent
  else if 400 < order then infinite negative
  else if order < -400 then finite negative 0 leastExponent
  else if 0 ≤ exponent then round negative (digits * tenTo exponent.toNat) 1 0
  else round negative digits (tenTo (-exponent).toNat) 0

/-- The rounded product of two doubles without regard to the sign of the second. -/
def times : Binary64 → Binary64 → Binary64
  | finite s m e, finite _ m' e' => round s (m * m') 1 (e + e')
  | finite s _ _, _ => infinite s
  | other, _ => other

/-- The rounded quotient of two doubles without regard to the sign of the second, which must not
be zero. -/
def quotient : Binary64 → Binary64 → Binary64
  | finite s m e, finite _ m' e' => round s m m' (e - e')
  | other, _ => other

/-- Whether a number is zero, of either sign. -/
def isZero : Binary64 → Bool
  | finite _ m _ => m == 0
  | _ => false

/-- Whether a number is finite. -/
def isFinite : Binary64 → Bool
  | finite _ _ _ => true
  | _ => false

/-- The same number with a given sign. -/
def withSign (negative : Bool) : Binary64 → Binary64
  | finite _ m e => finite negative m e
  | infinite _ => infinite negative
  | undefined => undefined

end Binary64

end SmellRefactor.Decimal
