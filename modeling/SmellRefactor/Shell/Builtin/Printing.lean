import SmellRefactor.Shell.Arithmetic
import SmellRefactor.Shell.Format
import SmellRefactor.Shell.Machine
import SmellRefactor.Shell.Parameter

/-!
# Commands that write

`echo` and `printf`, as the shells know them and as programs of their own.  They differ in the
escapes that they know and in what they say about arguments that cannot be converted.
-/

namespace SmellRefactor.Shell

/-- The character that a letter behind a backslash stands for. -/
def escapeChar? : Char → Option Char
  | 'e' => some '\x1b'
  | 'a' => some '\x07'
  | 'b' => some '\x08'
  | 't' => some '\t'
  | 'n' => some '\n'
  | 'v' => some '\x0b'
  | 'f' => some '\x0c'
  | 'r' => some '\r'
  | '\\' => some '\\'
  | _ => none

/-- Which escapes are known. -/
structure Escapes where
  /-- Octal digits need a zero before them. -/
  zeroFirst : Bool
  /-- Octal digits may also have a zero before them. -/
  zeroToo : Bool
  /-- Digits of base sixteen are known. -/
  many : Bool
  /-- An escape ends the output. -/
  ending : Bool
  /-- The characters that stand for themselves behind a backslash. -/
  quotes : List Char

namespace Escapes

/-- What `echo` knows. -/
def ofEcho : Escapes := ⟨false, true, false, true, []⟩

/-- What `echo` knows where it has many escapes. -/
def ofEchoMany : Escapes := ⟨true, true, true, true, []⟩

/-- What the format of `printf` knows. -/
def ofFormat : Escapes := ⟨false, false, false, false, []⟩

/-- What the format of `printf` knows where it has many escapes. -/
def ofFormatMany : Escapes := ⟨false, false, true, false, ['"', '\'', '?']⟩

/-- What the format of `printf` knows as a program of its own. -/
def ofFormatProgram : Escapes := ⟨false, false, true, true, ['"']⟩

/-- What an argument of `printf` may hold. -/
def ofArgument : Escapes := ⟨false, true, false, true, []⟩

/-- What an argument of `printf` may hold where it has many escapes. -/
def ofArgumentMany : Escapes := ⟨false, true, true, true, []⟩

/-- What an argument of `printf` may hold as a program of its own. -/
def ofArgumentProgram : Escapes := ⟨false, true, true, true, ['"']⟩

/-- Reads what a backslash begins, behind it: what it stands for, and the rest.  Nothing is given
where the output ends. -/
def read (e : Escapes) (text : List Char) : Option (List Char × List Char) :=
  match text with
  | [] => some (['\\'], [])
  | c :: rest =>
    let octal (digits : List Char) : Option (List Char × List Char) :=
      let (d, rest) := readCode 8 3 digits
      some ([d], rest)
    if c = 'c' && e.ending then none
    else match escapeChar? c with
    | some d => some ([d], rest)
    | none =>
      if c = '0' && e.zeroToo then octal rest
      else if Decimal.isDigitOf 8 c && !e.zeroFirst then octal (c :: rest)
      else if e.quotes.contains c then some ([c], rest)
      else if e.many && c = 'x' && rest.head?.any (Decimal.isDigitOf 16) then
        let (d, rest) := readCode 16 2 rest
        some ([d], rest)
      else if e.many && (c = 'u' || c = 'U') && rest.head?.any (Decimal.isDigitOf 16) then
        let digits := (rest.take (if c = 'u' then 4 else 8)).takeWhile (Decimal.isDigitOf 16)
        let d := Char.ofNat (Decimal.valueOf 16 digits)
        some ((encoded (String.singleton d)).toList, rest.drop digits.length)
      else some (['\\', c], rest)

/-- The text with its escapes replaced, and whether an escape ended it early. -/
def unescape (e : Escapes) : Nat → List Char → List Char × Bool
  | 0, _ => ([], false)
  | _, [] => ([], false)
  | fuel + 1, c :: rest =>
    if c = '\\' then
      match e.read rest with
      | none => ([], true)
      | some (found, rest) =>
        let (others, ended) := e.unescape fuel rest
        (found ++ others, ended)
    else
      let (others, ended) := e.unescape fuel rest
      (c :: others, ended)

end Escapes

/-! ## Lines of arguments -/

/-- The options at the beginning of the arguments of `echo`, and the other arguments. -/
def echoOptions (letters : List Char) : List String → List Char × List String
  | [] => ([], [])
  | arg :: rest =>
    match arg.toList with
    | '-' :: c :: cs =>
      if (c :: cs).all letters.contains then
        let (options, rest) := echoOptions letters rest
        (c :: cs ++ options, rest)
      else ([], arg :: rest)
    | _ => ([], arg :: rest)

/-- The line that `echo` writes. -/
def echoed (newline : Bool) (escapes : Option Escapes) (args : List String) : String :=
  let text := (" ".intercalate args).toList
  let (text, ended) := match escapes with
    | some e => e.unescape (text.length + 1) text
    | none => (text, false)
  String.ofList (if newline && !ended then text ++ ['\n'] else text)

/-- The line that `echo` writes where escapes have to be asked for. -/
def echoedWith (args : List String) : String :=
  let (options, args) := echoOptions ['n', 'e', 'E'] args
  let last := options.reverse.find? fun c => c = 'e' || c = 'E'
  echoed (!options.contains 'n') (if last = some 'e' then some .ofEchoMany else none) args

/-- Writes the arguments on a line. -/
def echo : Builtin := fun args m =>
  let text := match m.dialect, args with
    | .rich, args => echoedWith args
    | .plain, "-n" :: rest => echoed false (some .ofEcho) rest
    | .plain, args => echoed true (some .ofEcho) args
  (m.print 1 text).done 0

/-- Writes the arguments on a line, as a program of its own. -/
def echoProgram : Builtin := fun args m => (m.print 1 (echoedWith args)).done 0

/-! ## Formats -/

/-- Who formats. -/
inductive Formatter where
  | shell (dialect : Dialect)
  | program
deriving DecidableEq, Repr

namespace Formatter

/-- Whether there are additions to the common conversions. -/
def isRich : Formatter → Bool
  | shell .plain => false
  | _ => true

/-- The escapes of a format. -/
def escapes : Formatter → Escapes
  | shell .plain => .ofFormat
  | shell .rich => .ofFormatMany
  | program => .ofFormatProgram

/-- The escapes of an argument. -/
def argumentEscapes : Formatter → Escapes
  | shell .plain => .ofArgument
  | shell .rich => .ofArgumentMany
  | program => .ofArgumentProgram

/-- What is said about an argument that is no number. -/
def noNumber (f : Formatter) (arg : String) : String :=
  match f with
  | shell .plain => arg ++ ": expected numeric value"
  | shell .rich => arg ++ ": invalid number"
  | program => "'" ++ arg ++ "': expected a numeric value"

/-- What is said about an argument that goes on behind a number. -/
def moreThanNumber (f : Formatter) (arg : String) : String :=
  match f with
  | shell .plain => arg ++ ": not completely converted"
  | shell .rich => arg ++ ": invalid number"
  | program => "'" ++ arg ++ "': value not completely converted"

/-- What is said about a number that is too large. -/
def outOfRange (f : Formatter) (arg : String) : String :=
  let text := "Numerical result out of range"
  match f with
  | shell .plain => arg ++ ": " ++ text
  | shell .rich => "warning: " ++ arg ++ ": " ++ text
  | program => "'" ++ arg ++ "': " ++ text

/-- What is said about a conversion that does not exist; the first text is what stands before its
kind. -/
def noConversion (f : Formatter) (source : String) (kind : Char) (rest : List Char) : String :=
  match f with
  | shell .plain => "%" ++ source ++ kind.toString ++ ": invalid directive"
  | shell .rich => "\x60" ++ kind.toString ++ "': invalid format character"
  | program =>
    let behind := if kind = '%' || kind = '$' || kind = '(' then [] else rest.take 1
    "%" ++ source ++ kind.toString ++ String.ofList behind ++ ": invalid conversion specification"

/-- What is said about a format that ends within a conversion. -/
def noKind (f : Formatter) (source : String) : String :=
  match f with
  | shell .plain => "missing format character"
  | shell .rich => "\x60%" ++ source ++ "': missing format character"
  | program => "%" ++ source ++ ": invalid conversion specification"

/-- What is said where there is no format. -/
def noFormat : Formatter → String
  | shell .plain => "usage: printf format [arg ...]"
  | shell .rich => "usage: printf [-v var] format [arguments]"
  | program => "missing operand"

/-- The status that follows a conversion that does not exist. -/
def badStatus : Formatter → Nat
  | shell .plain => 2
  | _ => 1

end Formatter

/-- What formatting gives, piece by piece. -/
inductive Formatted where
  | text (chars : List Char)
  | complaint (text : String) (status : Nat)
  /-- Nothing more comes. -/
  | stop
deriving Repr

namespace Formatted

/-- The text of all pieces. -/
def written (pieces : List Formatted) : String :=
  String.ofList (pieces.flatMap fun piece =>
    match piece with
    | text chars => chars
    | _ => [])

/-- The status that pieces ask for. -/
def status (pieces : List Formatted) : Nat :=
  pieces.foldl (fun status piece => match piece with
    | complaint _ 0 => status
    | complaint _ status => status
    | _ => status) 0

/-- Whether nothing more comes. -/
def hasEnded (pieces : List Formatted) : Bool :=
  pieces.any fun piece => match piece with
    | stop => true
    | _ => false

end Formatted

/-- The complaint about an argument that should have been a number, given what is left of it. -/
def remainder (f : Formatter) (arg : String) (rest : List Char) (began tooLarge : Bool) :
    List Formatted :=
  if !began then [.complaint (f.noNumber arg) 1]
  else if !rest.isEmpty then [.complaint (f.moreThanNumber arg) 1]
  else if tooLarge then
    [.complaint (f.outOfRange arg) (if f = .shell .rich then 0 else 1)]
  else []

/-- The number of an argument, with a complaint if it is none; a quote before a character gives its
code. -/
def wholeArgument (f : Formatter) (signed : Bool) (arg : String) : Int × List Formatted :=
  match arg.toList with
  | [] => (0, if f = .program then [.complaint (f.noNumber arg) 1] else [])
  | '\'' :: rest | '"' :: rest =>
    let behind := if f = .program && 1 < rest.length then
      [.complaint ("warning: " ++ String.ofList (rest.drop 1) ++
        ": character(s) following character constant have been ignored") 0] else []
    ((rest.head?.map fun c => (c.toNat : Int)).getD 0, behind)
  | text =>
    let text := text.dropWhile fun c => c = ' ' || ('\t' ≤ c && c ≤ '\r')
    let (negative, digits) := match text with
      | '-' :: rest => (true, rest)
      | '+' :: rest => (false, rest)
      | rest => (false, rest)
    let (base, digits) := match digits with
      | '0' :: x :: rest =>
        if (x = 'x' || x = 'X') && rest.head?.any (Decimal.isDigitOf 16) then (16, rest)
        else (8, digits)
      | '0' :: _ => (8, digits)
      | digits => (10, digits)
    let rest := digits.dropWhile (Decimal.isDigitOf base)
    let size := Decimal.valueOf base (digits.takeWhile (Decimal.isDigitOf base))
    let most : Nat :=
      if signed then if negative then Decimal.twoTo 63 else Decimal.twoTo 63 - 1
      else Decimal.maxWord
    let n : Int := min size most
    (if negative && size ≤ most then -n else if negative && signed then -n else n,
      remainder f arg rest (digits.head?.any (Decimal.isDigitOf base)) (most < size))

/-- The real number of an argument, with a complaint if it is none. -/
def realArgument (f : Formatter) (arg : String) : Decimal.Binary64 × List Formatted :=
  match arg.toList with
  | [] => (.ofNat 0, if f = .program then [.complaint (f.noNumber arg) 1] else [])
  | '\'' :: rest | '"' :: rest => (.ofNat ((rest.head?.map Char.toNat).getD 0), [])
  | text =>
    match readReal text with
    | none => (.ofNat 0, remainder f arg text false false)
    | some (x, rest) => (x, remainder f arg rest true false)

/-- One conversion of an argument. -/
def convert (f : Formatter) (l : Layout) (kind : Char) (arg : Option String) :
    Option (List Formatted) :=
  let text := arg.getD ""
  let value := (arg.getD "0")
  if ['d', 'i', 'u', 'o', 'x', 'X'].contains kind then
    let (n, complaints) := wholeArgument f (kind = 'd' || kind = 'i') value
    some (complaints ++ [.text (l.integer kind n)])
  else if ['e', 'E', 'f', 'F', 'g', 'G', 'a', 'A'].contains kind then
    let (x, complaints) := realArgument f value
    some (complaints ++ [.text (l.real kind x)])
  else match kind with
  | 's' => some [.text (l.text text.toList)]
  | 'c' =>
    some [.text (l.fill false [] [text.toList.headD '\x00'])]
  | 'b' =>
    let (chars, ended) := f.argumentEscapes.unescape (text.length + 1) text.toList
    some (.text (l.text chars) :: if ended then [.stop] else [])
  | 'q' => if f.isRich then some [.text (l.text (quotedFor f text).toList)] else none
  | _ => none
where
  /-- The text as it can be read again. -/
  quotedFor (f : Formatter) (text : String) : String :=
    if f = .shell .rich then backslashed text
    else if text.isEmpty then "''"
    else if needsEscapes text then inEscapes text
    else if text.toList.all isHarmless then text
    else if text.contains '\'' && !text.contains '"' then "\"" ++ text ++ "\""
    else inApostrophes text

/-- The letters that tell the size of a number, which is of no account. -/
def sizeLetters : List Char := ['h', 'j', 'l', 'L', 't', 'z']

/-- Formats arguments once, and gives the arguments that are left over. -/
def formatOnce (f : Formatter) : Nat → List Char → List String → List Formatted × List String
  | 0, _, args => ([], args)
  | _, [], args => ([], args)
  | fuel + 1, '%' :: '%' :: rest, args =>
    let (pieces, left) := formatOnce f fuel rest args
    (.text ['%'] :: pieces, left)
  | fuel + 1, '%' :: rest, args =>
    let (c, rest) := readConversion rest
    let (width, complaints, args) := match c.width with
      | some _ => ((0 : Int), [], args)
      | none =>
        let (n, complaints) := wholeArgument f true (args.head?.getD "0")
        (n, complaints, args.tail)
    let (precision, complaints, args) := match c.precision with
      | some none =>
        let (n, more) := wholeArgument f true (args.head?.getD "0")
        (n, complaints ++ more, args.tail)
      | _ => ((0 : Int), complaints, args)
    let sizes := if f.isRich then (c.kind.toList ++ rest).takeWhile sizeLetters.contains else []
    let (kind, rest) := if sizes.isEmpty then (c.kind, rest)
      else ((rest.drop (sizes.length - 1)).head?, rest.drop sizes.length)
    let source := String.ofList (c.source ++ if f = .program then sizes else [])
    match kind with
    | none => (complaints ++ [.complaint (f.noKind source) f.badStatus, .stop], [])
    | some kind =>
      match convert f (c.layout width precision) kind args.head? with
      | none =>
        (complaints ++ [.complaint (f.noConversion source kind rest) f.badStatus, .stop], [])
      | some pieces =>
        let pieces := complaints ++ pieces
        if Formatted.hasEnded pieces then (pieces, [])
        else
          let (others, left) := formatOnce f fuel rest args.tail
          (pieces ++ others, left)
  | fuel + 1, c :: rest, args =>
    if c = '\\' then
      match f.escapes.read rest with
      | none => ([.stop], [])
      | some (found, rest) =>
        let (pieces, left) := formatOnce f fuel rest args
        (.text found :: pieces, left)
    else
      let (pieces, left) := formatOnce f fuel rest args
      (.text [c] :: pieces, left)

/-- Formats arguments; the format is used again as long as it takes some of them. -/
def formatAll (f : Formatter) (format : List Char) : Nat → List String → List Formatted
  | 0, _ => []
  | fuel + 1, args =>
    let (pieces, left) := formatOnce f (format.length + 1) format args
    if Formatted.hasEnded pieces || left.isEmpty then pieces
    else if left.length = args.length then
      if f = .program then
        pieces ++ [.complaint ("warning: ignoring excess arguments, starting with '" ++
          left.head?.getD "" ++ "'") 0]
      else pieces
    else pieces ++ formatAll f format fuel left

/-- Formats arguments behind a format. -/
def formatArguments (f : Formatter) (format : String) (args : List String) : List Formatted :=
  formatAll f format.toList (args.length + 1) args

/-- Writes what a shell has formatted: first the complaints, then the text. -/
def writeFormatted (pieces : List Formatted) (m : Machine) : Machine :=
  let m := pieces.foldl
    (fun m piece => match piece with
      | .complaint text _ => (m.fail ("printf: " ++ text) 0).2
      | _ => m) m
  m.print 1 (Formatted.written pieces)

/-- Writes a format with its arguments. -/
def printf : Builtin := fun args m =>
  let f : Formatter := .shell m.dialect
  let usage (m : Machine) : Flow × Machine :=
    match m.dialect with
    | .plain => m.fail ("printf: " ++ f.noFormat) 2
    | .rich => (m.complain ("printf: " ++ f.noFormat ++ "\n")).done 2
  let write (format : String) (args : List String) : Flow × Machine :=
    let pieces := formatArguments f format args
    (writeFormatted pieces m).done (Formatted.status pieces)
  match args with
  | [] | ["--"] => usage m
  | "--" :: format :: args => write format args
  | "-v" :: name :: format :: args =>
    if m.dialect = .plain then m.fail "printf: Illegal option -v" 2
    else
      let pieces := formatArguments f format args
      let silent := pieces.filter fun piece => match piece with
        | .text _ => false
        | _ => true
      match (writeFormatted silent m).change name (Formatted.written pieces) with
      | .ok m => m.done (Formatted.status pieces)
      | .error text => m.fail ("printf: " ++ text) 1
  | format :: args =>
    match format.toList, m.dialect with
    | '-' :: c :: _, .plain => m.fail ("printf: Illegal option -" ++ c.toString) 2
    | '-' :: c :: _, .rich => usage (m.fail ("printf: -" ++ c.toString ++ ": invalid option") 2).2
    | _, _ => write format args

/-- Writes a format with its arguments, as a program of its own. -/
def printfProgram : Builtin := fun args m =>
  let args := if args.head? = some "--" then args.tail else args
  match args with
  | [] =>
    (m.complain (m.name ++ ": " ++ Formatter.program.noFormat ++ "\nTry '" ++ m.name ++
      " --help' for more information.\n")).done 1
  | format :: args =>
    let pieces := formatArguments .program format args
    let m := pieces.foldl
      (fun m piece => match piece with
        | .complaint text _ => m.complain (m.name ++ ": " ++ text ++ "\n")
        | .text chars => m.print 1 (String.ofList chars)
        | .stop => m) m
    m.done (Formatted.status pieces)

end SmellRefactor.Shell
