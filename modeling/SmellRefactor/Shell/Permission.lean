import SmellRefactor.Decimal.Numeral
import SmellRefactor.FileTree.Basic

/-!
# Changes of permissions

Permissions are changed by clauses such as `go-w`: whose permissions, whether they are given, taken
away or replaced, and which they are.  They can also be written as a number in base eight.
-/

namespace SmellRefactor.Shell

/-- The bits of those whom a letter names. -/
def whoBits? : Char → Option Mode
  | 'u' => some 0o4700
  | 'g' => some 0o2070
  | 'o' => some 0o1007
  | 'a' => some 0o7777
  | _ => none

/-- The three bits of permission that some have, given for everyone. -/
def spread (bits : Mode) : Mode := bits * 0o111

/-- The bits that letters of permissions name, for everyone. -/
def permissionBits (isDirectory : Bool) (mode : Mode) (letters : List Char) : Option Mode :=
  letters.foldlM
    (fun (bits : Mode) c =>
      match c with
      | 'r' => some (bits ||| 0o444)
      | 'w' => some (bits ||| 0o222)
      | 'x' => some (bits ||| 0o111)
      | 'X' => some (if isDirectory || mode &&& 0o111 ≠ 0 then bits ||| 0o111 else bits)
      | 's' => some (bits ||| 0o6000)
      | 't' => some (bits ||| 0o1000)
      | 'u' => some (bits ||| spread (mode / 0o100 % 8))
      | 'g' => some (bits ||| spread (mode / 0o10 % 8))
      | 'o' => some (bits ||| spread (mode % 8))
      | _ => none) 0

/-- The permissions after the operators of one clause and their letters. -/
def applyOperators (isDirectory : Bool) (who allowed : Mode) : Nat → List Char → Mode → Option Mode
  | 0, _, _ => none
  | _, [], mode => some mode
  | fuel + 1, operator :: rest, mode => do
    let isOperator (c : Char) : Bool := ['+', '-', '='].contains c
    let letters := rest.takeWhile fun c => !isOperator c
    let bits := (← permissionBits isDirectory mode letters) &&& who &&& allowed
    let rest := rest.drop letters.length
    let keep := 0o7777 ^^^ (who &&& 0o777)
    match operator with
    | '+' => applyOperators isDirectory who allowed fuel rest (mode ||| bits)
    | '-' => applyOperators isDirectory who allowed fuel rest (mode &&& (0o7777 ^^^ bits))
    | '=' => applyOperators isDirectory who allowed fuel rest ((mode &&& keep) ||| bits)
    | _ => none

/-- The permissions after a clause.  Where it names nobody, it means everyone, but not what the mask
withholds. -/
def applyClause (isDirectory : Bool) (mask : Mode) (mode : Mode) (clause : List Char) :
    Option Mode :=
  let whose := clause.takeWhile fun c => (whoBits? c).isSome
  let rest := clause.drop whose.length
  let who := whose.foldl (fun bits c => bits ||| (whoBits? c).getD 0) 0
  if rest.isEmpty then none
  else if whose.isEmpty then
    applyOperators isDirectory 0o7777 (0o7777 ^^^ mask) (rest.length + 1) rest mode
  else applyOperators isDirectory who 0o7777 (rest.length + 1) rest mode

/-- The number that a text writes in base eight. -/
def octal? (text : String) : Option Nat :=
  if !text.isEmpty && text.toList.all (Decimal.isDigitOf 8) then
    some (Decimal.valueOf 8 text.toList)
  else none

/-- The permissions after the changes that a text writes, or the permissions that it gives as a
number. -/
def changedMode? (isDirectory : Bool) (mask : Mode) (text : String) (mode : Mode) : Option Mode :=
  match octal? text with
  | some n => if n ≤ 0o7777 then some n else none
  | none =>
    (text.splitOn ",").foldlM (fun mode clause =>
      applyClause isDirectory mask mode clause.toList) mode

/-- Permissions as a number in base eight with at least so many digits. -/
def octalText (width : Nat) (mode : Mode) : String :=
  let digits := Nat.toDigits 8 mode
  String.ofList (List.replicate (width - digits.length) '0' ++ digits)

/-- Three bits of permission as letters. -/
def rwx (bits : Nat) : String :=
  (if bits.testBit 2 then "r" else "") ++ (if bits.testBit 1 then "w" else "") ++
    (if bits.testBit 0 then "x" else "")

/-- Permissions as a clause for each kind of users. -/
def symbolicText (mode : Mode) : String :=
  "u=" ++ rwx (mode / 0o100 % 8) ++ ",g=" ++ rwx (mode / 0o10 % 8) ++ ",o=" ++ rwx (mode % 8)

end SmellRefactor.Shell
