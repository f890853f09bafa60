import SmellRefactor.Misfit

/-!
# Problems in TOML texts

A text that is not well formed has a problem at a place, which is shown together with the line.  A
well-formed text may still hold a value that does not fit.
-/

namespace SmellRefactor.Toml

/-- What is not well formed. -/
inductive Cause where
  | controlCharacter
  | loneReturn
  | invalidKey
  | missingEquals
  | missingValue
  | invalidValue
  | invalidEscape
  | unclosedText
  | unclosedArray
  | unclosedInlineTable
  | unclosedTable
  | unclosedArrayTable
  | unseparatedArray
  | unseparatedInlineTable
  | trailingText
  | repeatedKey
  | closedTable
  | tooDeep
  | integerOutOfRange
  | floatOutOfRange
deriving DecidableEq, Repr

/-- The wording of a problem of form. -/
def Cause.message : Cause → String
  | controlCharacter => "invalid control character"
  | loneReturn => "carriage return must be followed by newline, expected `\\n`"
  | invalidKey => "invalid key"
  | missingEquals => "key with no value, expected `=`"
  | missingValue => "missing value"
  | invalidValue => "string values must be quoted, expected literal string"
  | invalidEscape => "missing escaped value"
  | unclosedText => "invalid basic string, expected `\"`"
  | unclosedArray => "unclosed array, expected `]`"
  | unclosedInlineTable => "unclosed inline table, expected `\x7d`"
  | unclosedTable => "unclosed table, expected `]`"
  | unclosedArrayTable => "unclosed array table, expected `]]`"
  | unseparatedArray => "missing comma between array elements, expected `,`"
  | unseparatedInlineTable => "missing comma between key-value pairs, expected `,`"
  | trailingText => "unexpected key or value, expected newline, `#`"
  | repeatedKey => "duplicate key"
  | closedTable => "cannot extend value with a dotted key"
  | tooDeep => "cannot recurse further; max recursion depth met"
  | integerOutOfRange => "integer number overflowed"
  | floatOutOfRange => "floating-point number overflowed"

/-- Where a problem was noticed. -/
structure Place where
  line : Nat
  /-- The characters before the place on its line. -/
  column : Nat
  /-- The text of the line. -/
  content : String
deriving DecidableEq, Repr

/-- The place `offset` characters behind the beginning of a text. -/
def Place.ofOffset (text : List Char) (offset : Nat) : Place :=
  let before := text.take offset
  let column := (before.reverse.takeWhile (· ≠ '\n')).length
  { line := before.count '\n' + 1
    column := column
    content := String.ofList ((text.drop (offset - column)).takeWhile (· ≠ '\n')) }

/-- A problem of a text. -/
inductive Error where
  | malformed (cause : Cause) (place : Place)
  | misfit (misfit : Misfit)
deriving DecidableEq, Repr

namespace Error

/-- The wording of a problem, without its place. -/
def message : Error → String
  | malformed cause _ => cause.message
  | misfit m => m.message Decimal.FloatFormat.plain

/-- The problem with its place and the line under which it is marked; it ends with a newline. -/
def display : Error → String
  | malformed cause place =>
    let number := toString place.line
    let margin := String.ofList (List.replicate (number.length + 1) ' ') ++ "|"
    "TOML parse error at line " ++ number ++ ", column " ++ toString (place.column + 1) ++ "\n" ++
      margin ++ "\n" ++ number ++ " | " ++ place.content ++ "\n" ++ margin ++
      String.ofList (List.replicate (place.column + 1) ' ') ++ "^\n" ++ cause.message ++ "\n"
  | misfit m => m.message Decimal.FloatFormat.plain ++ "\n"

end Error

end SmellRefactor.Toml
