import SmellRefactor.Shell.Expression.Reader
import SmellRefactor.Shell.Format
import SmellRefactor.Shell.Utility.Basic

/-!
# Computing

`expr` computes an expression whose parts are its arguments, and `seq` counts.
-/

namespace SmellRefactor.Shell

/-! ## Expressions of arguments -/

/-- Whether a text is a whole number. -/
def wholeText? (text : String) : Option Int :=
  let (negative, digits) := match text.toList with
    | '-' :: digits => (true, digits)
    | digits => (false, digits)
  if digits.isEmpty || !digits.all Char.isDigit then none
  else
    let n : Int := Decimal.valueOf 10 digits
    some (if negative then -n else n)

/-- Whether a value counts as false. -/
def isVoid (value : String) : Bool := value.isEmpty || wholeText? value = some 0

/-- Why an expression has no value, with the status that says so. -/
abbrev ExprFault := String × Nat

/-- What a basic expression matches at the beginning of a text: what its first group has taken, or
how much has been matched. -/
def matchStart (text pattern : String) : Except ExprFault String :=
  match Expression.ofString .basic pattern.toList with
  | .error problem => .error (problem.message, 2)
  | .ok e =>
    let grouped : Bool := e.groupCount ≠ 0
    let subject : Subject := ⟨text.toList.toArray, false, false⟩
    match e.matchAt subject 0 with
    | none => .ok (if grouped then "" else "0")
    | some state =>
      if grouped then
        match state.groups.lookup 1 with
        | some (first, last) => .ok (String.ofList (subject.slice first last))
        | none => .ok ""
      else .ok (toString state.position)

/-- A whole number, or the fault that there is none. -/
def wholeNumber (value : String) : Except ExprFault Int :=
  match wholeText? value with
  | some n => .ok n
  | none => .error ("non-integer argument", 2)

/-- The value of an operator between two values. -/
def combine (operator a b : String) : Except ExprFault String :=
  let number (f : Int → Int → Int) : Except ExprFault String := do
    return Decimal.integerText (f (← wholeNumber a) (← wholeNumber b))
  let order (test : Ordering → Bool) : Except ExprFault String :=
    let ordering := match wholeText? a, wholeText? b with
      | some n, some k => compare n k
      | _, _ => compare a b
    .ok (if test ordering then "1" else "0")
  match operator with
  | "+" => number (· + ·)
  | "-" => number (· - ·)
  | "*" => number (· * ·)
  | "/" | "%" => do
    let n ← wholeNumber a
    let k ← wholeNumber b
    if k = 0 then throw ("division by zero", 2)
    return Decimal.integerText (if operator = "/" then n.tdiv k else n.tmod k)
  | "<" => order Ordering.isLT
  | "<=" => order Ordering.isLE
  | "=" | "==" => order Ordering.isEq
  | "!=" => order fun o => !o.isEq
  | ">=" => order Ordering.isGE
  | ">" => order Ordering.isGT
  | ":" => matchStart a b
  | _ => .ok a

/-- The operators of each rank, the weakest first.  The two weakest ones are apart from these. -/
def exprRanks : List (List String) :=
  [["<", "<=", "=", "==", "!=", ">=", ">"], ["+", "-"], ["*", "/", "%"], [":"]]

/-- The characters of a text at some places, counted from one. -/
def substring (text : String) (place count : Option Int) : String :=
  match place, count with
  | some place, some count =>
    if place ≤ 0 || count ≤ 0 then ""
    else ((text.drop (place.toNat - 1)).take count.toNat).toString
  | _, _ => ""

/-- The place of the first character of a text that is one of some others, counted from one. -/
def placeOfAny (text chars : String) : Nat :=
  ((text.toList.findIdx? chars.toList.contains).map (· + 1)).getD 0

mutual

/-- Computes alternatives.  `skipping` says that the value is of no account, so that no operator can
fail.  `last` is the argument before the ones that are left. -/
def exprOr : Nat → Bool → String → List String → Except ExprFault (String × String × List String)
  | 0, _, _, _ => .error ("syntax error", 2)
  | fuel + 1, skipping, last, args => do
    let (value, last, rest) ← exprAnd fuel skipping last args
    orTail fuel skipping value last rest

/-- Computes the alternatives to a value. -/
def orTail : Nat → Bool → String → String → List String →
    Except ExprFault (String × String × List String)
  | 0, _, _, _, _ => .error ("syntax error", 2)
  | fuel + 1, skipping, value, last, args =>
    match args with
    | "|" :: rest => do
      let (other, last, rest) ← exprAnd fuel (skipping || !isVoid value) "|" rest
      let value := if isVoid value then if isVoid other then "0" else other else value
      orTail fuel skipping value last rest
    | args => .ok (value, last, args)

/-- Computes values that have to hold together. -/
def exprAnd : Nat → Bool → String → List String →
    Except ExprFault (String × String × List String)
  | 0, _, _, _ => .error ("syntax error", 2)
  | fuel + 1, skipping, last, args => do
    let (value, last, rest) ← exprRank fuel skipping exprRanks last args
    andTail fuel skipping value last rest

/-- Computes the values that have to hold with another one. -/
def andTail : Nat → Bool → String → String → List String →
    Except ExprFault (String × String × List String)
  | 0, _, _, _, _ => .error ("syntax error", 2)
  | fuel + 1, skipping, value, last, args =>
    match args with
    | "&" :: rest => do
      let (other, last, rest) ← exprRank fuel (skipping || isVoid value) exprRanks "&" rest
      andTail fuel skipping (if isVoid value || isVoid other then "0" else value) last rest
    | args => .ok (value, last, args)

/-- Computes with the operators of some ranks. -/
def exprRank : Nat → Bool → List (List String) → String → List String →
    Except ExprFault (String × String × List String)
  | 0, _, _, _, _ => .error ("syntax error", 2)
  | fuel + 1, skipping, [], last, args => exprPart fuel skipping last args
  | fuel + 1, skipping, operators :: ranks, last, args => do
    let (value, last, rest) ← exprRank fuel skipping ranks last args
    rankTail fuel skipping operators ranks value last rest

/-- Computes with the operators of one rank behind a value. -/
def rankTail : Nat → Bool → List String → List (List String) → String → String → List String →
    Except ExprFault (String × String × List String)
  | 0, _, _, _, _, _, _ => .error ("syntax error", 2)
  | fuel + 1, skipping, operators, ranks, value, last, args =>
    match args with
    | [] => .ok (value, last, [])
    | operator :: rest =>
      if operators.contains operator then do
        let (other, last, rest) ← exprRank fuel skipping ranks operator rest
        let value ← if skipping then pure value else combine operator value other
        rankTail fuel skipping operators ranks value last rest
      else .ok (value, last, args)

/-- Computes a single value. -/
def exprPart : Nat → Bool → String → List String →
    Except ExprFault (String × String × List String)
  | 0, _, _, _ => .error ("syntax error", 2)
  | fuel + 1, skipping, last, args =>
    let missing (last : String) : ExprFault :=
      ("syntax error: missing argument after '" ++ last ++ "'", 2)
    let next (last : String) (args : List String) := exprPart fuel skipping last args
    match args with
    | [] => .error (missing last)
    | ["+"] => .error (missing "+")
    | "+" :: text :: rest => .ok (text, text, rest)
    | "length" :: rest => do
      let (text, last, rest) ← next "length" rest
      return (toString text.length, last, rest)
    | "match" :: rest => do
      let (text, last, rest) ← next "match" rest
      let (pattern, last, rest) ← next last rest
      return (← if skipping then pure text else matchStart text pattern, last, rest)
    | "index" :: rest => do
      let (text, last, rest) ← next "index" rest
      let (chars, last, rest) ← next last rest
      return (toString (placeOfAny text chars), last, rest)
    | "substr" :: rest => do
      let (text, last, rest) ← next "substr" rest
      let (place, last, rest) ← next last rest
      let (count, last, rest) ← next last rest
      return (substring text (wholeText? place) (wholeText? count), last, rest)
    | "(" :: rest => do
      let (value, last, rest) ← exprOr fuel skipping "(" rest
      match rest with
      | ")" :: rest => return (value, ")", rest)
      | [] => throw ("syntax error: expecting ')' after '" ++ last ++ "'", 2)
      | extra :: _ => throw ("syntax error: expecting ')' instead of '" ++ extra ++ "'", 2)
    | ")" :: _ => .error ("syntax error: unexpected ')'", 2)
    | text :: rest => .ok (text, text, rest)

end

/-- Computes an expression. -/
def expr : Builtin := fun args m =>
  let args := if args.head? = some "--" then args.tail else args
  if args.isEmpty then m.misuseWith 2 "missing operand"
  else match exprOr (16 * (args.length + 2)) false "" args with
  | .error (text, status) => m.report text status
  | .ok (_, _, extra :: _) => m.report ("syntax error: unexpected argument '" ++ extra ++ "'") 2
  | .ok (value, _, []) => (m.print 1 (value ++ "\n")).done (if isVoid value then 1 else 0)

/-! ## Counting -/

/-- A number as a whole number of some power of ten. -/
structure Counter where
  digits : Int
  /-- The number of places behind the point. -/
  places : Nat
  /-- The number of characters in which the number was written. -/
  width : Nat
deriving Repr

namespace Counter

/-- The digits of a counter with more places. -/
def scaledTo (places : Nat) (c : Counter) : Int :=
  c.digits * (Decimal.tenTo (places - c.places) : Int)

/-- Reads a counter. -/
def read? (text : String) : Option Counter :=
  let chars := text.toList.dropWhile (· = ' ')
  let (negative, rest) := match chars with
    | '-' :: rest => (true, rest)
    | '+' :: rest => (false, rest)
    | rest => (false, rest)
  let signed (n : Nat) : Int := if negative then -(n : Int) else n
  match rest with
  | '0' :: x :: digits =>
    if (x = 'x' || x = 'X') && !digits.isEmpty && digits.all (Decimal.isDigitOf 16) then
      some ⟨signed (Decimal.valueOf 16 digits), 0, chars.length⟩
    else ten chars.length signed rest
  | rest => ten chars.length signed rest
where
  /-- Reads the digits of a counter in base ten. -/
  ten (width : Nat) (signed : Nat → Int) (rest : List Char) : Option Counter :=
    let (whole, behind, rest) := readDigits 10 rest
    let (exponent, rest) := readExponent 'e' rest
    if !rest.isEmpty || (whole.isEmpty && behind.isEmpty) then none
    else
      let n := Decimal.valueOf 10 (whole ++ behind)
      let places : Int := behind.length - exponent
      let shown := if behind.isEmpty && exponent = 0 then width
        else max 1 whole.length + behind.length + (if behind.isEmpty then 0 else 1) +
          (if signed 1 < 0 then 1 else 0)
      if 0 ≤ places then some ⟨signed n, places.toNat, shown⟩
      else some ⟨signed (n * Decimal.tenTo (-places).toNat), 0, width⟩

/-- The text of a number of such places. -/
def text (places : Nat) (n : Int) : List Char :=
  (if n < 0 then ['-'] else []) ++ Layout.pointed places false n.natAbs

end Counter

/-- The numbers from one to another. -/
def countFrom (first step last : Int) : List Int :=
  let count := if step = 0 then 0 else ((last - first).tdiv step + 1).toNat
  let reaches := if 0 < step then first ≤ last else last ≤ first
  if reaches then (List.range count).map fun n : Nat => first + step * (n : Int) else []

/-- The parts of a format with one conversion of real numbers: what stands before and behind it. -/
def splitFormat (format : String) : Except String (List Char × Conversion × List Char) :=
  go [] format.toList
where
  /-- A complaint about the format. -/
  fault (text : String) : Except String (List Char × Conversion × List Char) :=
    .error ("format '" ++ format ++ "' " ++ text)
  /-- Looks for the conversion behind some characters, which are given backwards. -/
  go (before : List Char) : List Char → Except String (List Char × Conversion × List Char)
    | [] => fault "has no % directive"
    | '%' :: '%' :: rest => go ('%' :: before) rest
    | '%' :: rest =>
      let (c, behind) := readConversion rest
      let literal := (String.ofList behind).replace "%%" ""
      match c.kind with
      | none => fault "ends in %"
      | some kind =>
        if !"eEfFgGaA".toList.contains kind then
          fault ("has unknown %" ++ kind.toString ++ " directive")
        else if literal.contains '%' then fault "has too many % directives"
        else .ok (before.reverse, c, ((String.ofList behind).replace "%%" "%").toList)
    | c :: rest => go (c :: before) rest

/-- Arguments in which a negative number is no option. -/
def protectNegative : List String → List String
  | [] => []
  | arg :: rest =>
    match arg.toList with
    | '-' :: c :: _ =>
      if c.isDigit || c = '.' then "--" :: arg :: rest
      else if arg = "--" then arg :: rest
      else if arg = "-s" || arg = "-f" then arg :: rest.take 1 ++ protectNegative (rest.drop 1)
      else arg :: protectNegative rest
    | _ => "--" :: arg :: rest
termination_by args => args.length

/-- Counts. -/
def seq : Builtin := fun args m =>
  withTable
    { flags := "w", valued := "sf", mixed := false, badStatus := 1
      long := [("equal-width", 'w'), ("separator", 's'), ("format", 'f')] }
    (fun o m =>
      match o.operands, o.operands.find? fun text => (Counter.read? text).isNone with
      | [], _ => m.misuse "missing operand"
      | _ :: _ :: _ :: extra :: _, _ => m.misuse ("extra operand '" ++ extra ++ "'")
      | operands, some bad =>
        match readReal bad.toList with
        | some (.undefined, []) =>
          m.misuse ("invalid 'not-a-number' argument: '" ++ bad ++ "'")
        | some (.infinite _, []) => m.done 0
        | _ =>
          if operands.isEmpty then m.done 0
          else m.misuse ("invalid floating point argument: '" ++ bad ++ "'")
      | operands, none =>
        let one : Counter := ⟨1, 0, 1⟩
        let (first, step, last) := match operands.filterMap Counter.read? with
          | [last] => (one, one, last)
          | [first, last] => (first, one, last)
          | first :: step :: last :: _ => (first, step, last)
          | [] => (one, one, one)
        if step.digits = 0 then
          m.misuse ("invalid Zero increment value: '" ++ (operands[1]?).getD "0" ++ "'")
        else
          let places := max first.places step.places
          let scale := max places last.places
          let numbers := countFrom (first.scaledTo scale) (step.scaledTo scale)
            (last.scaledTo scale)
          let unscaled := numbers.map fun n => n.tdiv (Decimal.tenTo (scale - places))
          let texts : Except String (List String) :=
            match o.value? 'f' with
            | some format => do
              let (before, c, behind) ← splitFormat format
              return unscaled.map fun n =>
                let real := Decimal.Binary64.ofDecimal (n < 0) n.natAbs (-(places : Int))
                String.ofList (before ++ (c.layout 0 0).real (c.kind.getD 'g') real ++ behind)
            | none =>
              let plain := unscaled.map (Counter.text places)
              let widthOf (c : Counter) : Nat :=
                c.width + (if c.places = 0 && 0 < places then places + 1
                  else places - c.places) - (if places < c.places then
                    c.places - places + (if places = 0 then 1 else 0) else 0)
              let width := max (widthOf first) (widthOf last)
              .ok (plain.map fun text =>
                let text := if o.has 'w' then
                    match text with
                    | '-' :: digits =>
                      '-' :: List.replicate (width - 1 - digits.length) '0' ++ digits
                    | digits => List.replicate (width - digits.length) '0' ++ digits
                  else text
                String.ofList text)
          match texts with
          | .error text => m.report text 1
          | .ok [] => m.done 0
          | .ok texts => (m.print 1 (((o.value? 's').getD "\n").intercalate texts ++ "\n")).done 0)
    (protectNegative args) m

end SmellRefactor.Shell
