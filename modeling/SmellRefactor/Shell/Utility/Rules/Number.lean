import SmellRefactor.Decimal.Binary64

/-!
# Arithmetic of doubles

Sums, products, quotients and remainders are computed exactly and rounded once.  The functions that
have no exact value, such as the sine, are those of the processor.
-/

namespace SmellRefactor.Decimal.Binary64

/-- Zero without a sign. -/
def zero : Binary64 := finite false 0 leastExponent

/-- A number with a sign as a whole number. -/
def signed (negative : Bool) (n : Nat) : Int := if negative then -(n : Int) else n

/-- The double nearest to `n * 2 ^ exponent`. -/
def ofScaled (n exponent : Int) : Binary64 := round (decide (n < 0)) n.natAbs 1 exponent

/-- The double nearest to a whole number. -/
def ofInt (n : Int) : Binary64 := ofScaled n 0

/-- One for what is so, and zero for what is not. -/
def ofBool (b : Bool) : Binary64 := if b then ofInt 1 else zero

/-- Whether a number has the sign of the negative ones. -/
def isNegative : Binary64 → Bool
  | finite s _ _ => s
  | infinite s => s
  | undefined => false

/-- The number with the other sign. -/
def negated (x : Binary64) : Binary64 := x.withSign !x.isNegative

/-- The sum of two numbers. -/
def add : Binary64 → Binary64 → Binary64
  | finite s m e, finite t n f =>
    let low := min e f
    let sum := signed s (m * twoTo (e - low).toNat) + signed t (n * twoTo (f - low).toNat)
    if sum = 0 then finite (s && t) 0 leastExponent else ofScaled sum low
  | infinite s, infinite t => if s = t then infinite s else undefined
  | undefined, _ => undefined
  | _, undefined => undefined
  | infinite s, finite _ _ _ => infinite s
  | finite _ _ _, infinite t => infinite t

/-- The difference of two numbers. -/
def subtract (x y : Binary64) : Binary64 := x.add y.negated

/-- The product of two numbers. -/
def multiply : Binary64 → Binary64 → Binary64
  | undefined, _ => undefined
  | _, undefined => undefined
  | finite s m e, finite t n f => round (s != t) (m * n) 1 (e + f)
  | x, y =>
    if x.isZero || y.isZero then undefined else infinite (x.isNegative != y.isNegative)

/-- The quotient of two numbers.  What is divided by zero is infinite, unless it is zero itself. -/
def divide : Binary64 → Binary64 → Binary64
  | undefined, _ => undefined
  | _, undefined => undefined
  | infinite _, infinite _ => undefined
  | infinite s, finite t _ _ => infinite (s != t)
  | finite s _ _, infinite t => finite (s != t) 0 leastExponent
  | finite s m e, finite t n f =>
    if n = 0 then if m = 0 then undefined else infinite (s != t)
    else round (s != t) m n (e - f)

/-- What is left of a number when it is divided by another one as a whole; it has the sign of the
number itself. -/
def remainder : Binary64 → Binary64 → Binary64
  | finite s m e, finite _ n f =>
    if n = 0 then undefined
    else
      let low := min e f
      round s ((m * twoTo (e - low).toNat) % (n * twoTo (f - low).toNat)) 1 low
  | finite s m e, infinite _ => finite s m e
  | _, _ => undefined

/-- The number without what stands behind its point. -/
def truncated : Binary64 → Binary64
  | finite s m e => if 0 ≤ e then finite s m e else round s (m / twoTo (-e).toNat) 1 0
  | x => x

/-- The value of a number that is a whole one. -/
def whole? : Binary64 → Option Int
  | finite s m e =>
    if 0 ≤ e then some (signed s (m * twoTo e.toNat))
    else if m % twoTo (-e).toNat = 0 then some (signed s (m / twoTo (-e).toNat))
    else none
  | _ => none

/-- The whole number that is left of a number without what stands behind its point, within some
bounds; nothing if there is no number. -/
def clamped? (least most : Int) : Binary64 → Option Int
  | finite s m e => (truncated (finite s m e)).whole?.map fun n => max least (min most n)
  | infinite s => some (if s then least else most)
  | undefined => none

/-- How two numbers are ordered; nothing if one of them is no number. -/
def compare? : Binary64 → Binary64 → Option Ordering
  | finite s m e, finite t n f =>
    let low := min e f
    some (compare (signed s (m * twoTo (e - low).toNat)) (signed t (n * twoTo (f - low).toNat)))
  | infinite s, infinite t => some (compare t.toNat s.toNat)
  | infinite s, finite _ _ _ => some (if s then .lt else .gt)
  | finite _ _ _, infinite t => some (if t then .gt else .lt)
  | _, _ => none

/-! ## Functions of the processor -/

/-- A number as the processor holds it. -/
def toFloat : Binary64 → Float
  | finite s m e =>
    let x := (Float.ofNat m).scaleB e
    if s then -x else x
  | infinite s => if s then -1.0 / 0.0 else 1.0 / 0.0
  | undefined => 0.0 / 0.0

/-- A number that the processor holds. -/
def ofFloat (x : Float) : Binary64 :=
  let bits := x.toBits.toNat
  let s := decide (twoTo 63 ≤ bits)
  let exponent := bits / twoTo 52 % 2048
  let fraction := bits % twoTo 52
  if exponent = 2047 then if fraction = 0 then infinite s else undefined
  else if exponent = 0 then finite s fraction leastExponent
  else finite s (twoTo 52 + fraction) ((exponent : Int) - 1075)

/-- The value of a function of the processor. -/
def through (f : Float → Float) (x : Binary64) : Binary64 := ofFloat (f x.toFloat)

/-- The value of a function of the processor of two numbers. -/
def throughBoth (f : Float → Float → Float) (x y : Binary64) : Binary64 :=
  ofFloat (f x.toFloat y.toFloat)

end SmellRefactor.Decimal.Binary64
