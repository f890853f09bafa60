/-!
# Whole numbers in positional notation

Writing a number in a base, and the value of a list of digits.
-/

namespace SmellRefactor.Decimal

/-- The power of two with an exponent. -/
def twoTo (exponent : Nat) : Nat := Nat.pow 2 exponent

/-- The power of ten with an exponent. -/
def tenTo (exponent : Nat) : Nat := Nat.pow 10 exponent

/-- The digits of a number in base ten. -/
def digits (n : Nat) : List Char := Nat.toDigits 10 n

/-- The text of a number in base ten. -/
def naturalText (n : Nat) : String := String.ofList (digits n)

/-- The value of one character as a digit of a base up to 36; letters of both cases count. -/
def digitValue? (base : Nat) (c : Char) : Option Nat :=
  let value :=
    if '0' ≤ c ∧ c ≤ '9' then c.toNat - '0'.toNat
    else if 'a' ≤ c ∧ c ≤ 'z' then c.toNat - 'a'.toNat + 10
    else if 'A' ≤ c ∧ c ≤ 'Z' then c.toNat - 'A'.toNat + 10
    else base
  if value < base then some value else none

/-- Whether a character is a digit of the base. -/
def isDigitOf (base : Nat) (c : Char) : Bool := (digitValue? base c).isSome

/-- The value of a list of digits; characters that are no digits count as zero. -/
def valueOf (base : Nat) (text : List Char) : Nat :=
  text.foldl (fun n c => n * base + (digitValue? base c).getD 0) 0

/-- The largest number that fits into 64 bits without a sign. -/
def maxWord : Nat := twoTo 64 - 1

/-- A number in base sixteen, in lower case. -/
def hexDigits (n : Nat) : List Char := Nat.toDigits 16 n

/-- The text of an integer. -/
def integerText (n : Int) : String :=
  match n with
  | .ofNat n => String.ofList (digits n)
  | .negSucc n => String.ofList ('-' :: digits (n + 1))

end SmellRefactor.Decimal
