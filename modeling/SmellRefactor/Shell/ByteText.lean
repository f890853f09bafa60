import SmellRefactor.Path.Basic
import SmellRefactor.Text.Utf8

/-!
# Texts of bytes

Scripts, arguments and the contents of files need not be valid UTF-8, and the programs of a shell
count, cut and compare bytes.  So all of them are kept as texts in which every character stands for
one byte.
-/

namespace SmellRefactor.Shell

/-- The text whose characters stand for some bytes. -/
def textOfBytes (bytes : ByteArray) : String :=
  String.ofList (bytes.toList.map fun b => Char.ofNat b.toNat)

/-- The bytes for which the characters of a text stand. -/
def bytesOfText (text : String) : ByteArray :=
  ⟨(text.toList.map fun c => UInt8.ofNat c.toNat).toArray⟩

/-- The text that stands for the UTF-8 bytes of another one. -/
def encoded (s : String) : String :=
  if s.toList.all fun c => c.toNat < 0x80 then s else textOfBytes s.toUTF8

/-- The text whose UTF-8 bytes a text stands for. -/
def decoded (text : String) : String :=
  if text.toList.all fun c => c.toNat < 0x80 then text else Text.lenient (bytesOfText text)

/-- The path that a text of bytes names. -/
def pathOf (text : String) : Path := ⟨decoded text⟩

/-- The languages that a shell can speak. -/
inductive Dialect where
  /-- The common language of shells. -/
  | plain
  /-- The common language with many additions. -/
  | rich
deriving DecidableEq, Repr

/-- The characters that turn the meaning of a bracket in a pattern around. -/
def Dialect.negators : Dialect → List Char
  | plain => ['!']
  | rich => ['!', '^']

end SmellRefactor.Shell
