import SmellRefactor.Config.Build
import SmellRefactor.FileTree.Basic
import SmellRefactor.Path.Ancestors

/-!
# Finding the configuration

A configuration file that is asked for by its path has to be there and to be acceptable.  Otherwise
the nearest one is looked for, from a directory upwards; files that cannot be read or are not
acceptable are told of and passed over, and without any other the standard configuration is used.
-/

namespace SmellRefactor.Config

/-- The name of the file that is looked for. -/
def fileName : String := ".smellfix.toml"

/-- How many directories are searched at most. -/
def searchDepth : Nat := 10

/-- The configuration of the file at a path. -/
def load (t : FileTree) (path : Path) : Except Error Configuration :=
  match t.readText path with
  | .error error => .error (.fileSystem "Failed to read config file" path error)
  | .ok text =>
    match parse text with
    | .error rejection => .error (.configuration (.invalidFile path rejection))
    | .ok c => .ok c

/-- What is told of a file that cannot be read; a file that is not there is no news. -/
def tellUnreadable (path : Path) : SystemError → List Event
  | .notFound => []
  | error => [.configUnreadable path error]

/-- The configuration of the file at a path, if there is an acceptable one, and what is told. -/
def consider (t : FileTree) (path : Path) : Option Configuration × List Event :=
  match t.readText path with
  | .error error => (none, tellUnreadable path error)
  | .ok text =>
    match parse text with
    | .error rejection => (none, [.configIgnored path rejection])
    | .ok c => (some c, [.configLoaded path])

/-- The first acceptable configuration among some files, and what is told. -/
def firstOf (t : FileTree) : List Path → Option Configuration × List Event
  | [] => (none, [])
  | path :: paths =>
    match consider t path with
    | (some c, told) => (some c, told)
    | (none, told) =>
      let (found, rest) := firstOf t paths
      (found, told ++ rest)

/-- The files that are looked at from a directory upwards, nearest first. -/
def candidates (start : Path) : List Path :=
  (start.ancestors searchDepth).map fun directory => directory.join fileName

/-- The nearest acceptable configuration from a directory upwards, or the standard one, and what is
told meanwhile. -/
def search (t : FileTree) (start : Path) : Configuration × List Event :=
  match firstOf t (candidates start) with
  | (some c, told) => (c, told)
  | (none, told) => (.standard, told ++ [.configMissing searchDepth])

/-- The nearest acceptable configuration from the current directory upwards; if this directory is no
longer there, the standard one. -/
def searchHere (t : FileTree) : Configuration × List Event :=
  match t.currentPath with
  | .error error => (.standard, [.currentUnknown error])
  | .ok here => search t here

end SmellRefactor.Config
