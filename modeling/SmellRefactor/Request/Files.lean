import SmellRefactor.Error
import SmellRefactor.FileTree.Basic
import SmellRefactor.Json.Decode

/-!
# Files of a request

Reading and writing whole files, with errors that name the file.
-/

namespace SmellRefactor

/-- The workload that a file holds. -/
def loadWorkload (t : FileTree) (path : Path) : Except Error Workload :=
  match t.readText path with
  | .error error => .error (.fileSystem "Failed to read file" path error)
  | .ok text => (Json.workloadOfText text).mapError .json

/-- The text of a file. -/
def loadText (t : FileTree) (path : Path) : Except Error String :=
  (t.readText path).mapError (.fileSystem "Failed to read file" path)

/-- Puts a text into a file. -/
def storeText (t : FileTree) (path : Path) (text : String) : Except Error Unit × FileTree :=
  let (answer, t) := t.writeText path text
  (answer.mapError (.fileSystem "Failed to write file" path), t)

end SmellRefactor
