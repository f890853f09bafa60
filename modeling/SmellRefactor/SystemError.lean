/-!
# Errors of the operating system

Why a file could not be opened, read or written, or a program not be started.
-/

namespace SmellRefactor

/-- A reason given by the operating system. -/
inductive SystemError where
  | notFound
  | noDevice
  | tooManyArguments
  | badExecutable
  | badDescriptor
  | permissionDenied
  | alreadyExists
  | notDirectory
  | isDirectory
  | invalidArgument
  | noSpace
  | nameTooLong
  | directoryNotEmpty
  /-- A path with a NUL character. -/
  | nulInPath
  /-- A program name or an argument with a NUL character. -/
  | nulInArgument
  /-- The contents of a file are not text. -/
  | notText
  | described (text : String)
deriving DecidableEq, Repr, Inhabited

namespace SystemError

/-- A description followed by the number of the error. -/
def numbered (description : String) (number : Nat) : String :=
  description ++ " (os error " ++ toString number ++ ")"

/-- The wording of an error. -/
def message : SystemError → String
  | notFound => numbered "No such file or directory" 2
  | noDevice => numbered "No such device or address" 6
  | tooManyArguments => numbered "Argument list too long" 7
  | badExecutable => numbered "Exec format error" 8
  | badDescriptor => numbered "Bad file descriptor" 9
  | permissionDenied => numbered "Permission denied" 13
  | alreadyExists => numbered "File exists" 17
  | notDirectory => numbered "Not a directory" 20
  | isDirectory => numbered "Is a directory" 21
  | invalidArgument => numbered "Invalid argument" 22
  | noSpace => numbered "No space left on device" 28
  | nameTooLong => numbered "File name too long" 36
  | directoryNotEmpty => numbered "Directory not empty" 39
  | nulInPath => "file name contained an unexpected NUL byte"
  | nulInArgument => "nul byte found in provided data"
  | notText => "stream did not contain valid UTF-8"
  | described text => text

end SystemError

end SmellRefactor
