import SmellRefactor.Request.Error
import SmellRefactor.Request.Files

/-!
# A first configuration file

A user who has no configuration file yet can have one written.
-/

namespace SmellRefactor

/-- The first configuration file of a user. -/
def starterConfig : String :=
  "# Smellfix Configuration\n\n[parallel]\nenabled = true\n# max_concurrency = 4\n\n" ++
  "# One external tool per smell. Each tool is called as\n" ++
  "#   <program> [args...] <path> <method-name>\n" ++
  "# and must exit with status 0 when the refactoring was applied.\n" ++
  "[[strategies]]\nsmell = \"long_method\"\nprogram = \"extract-method\"\nargs = []\n"

/-- Writes a first configuration file; one that is already there is replaced only by force. -/
def writeStarter (t : FileTree) (path : Path) (force : Bool) :
    Except RequestError Unit × FileTree :=
  if t.exists? path && !force then
    (.error (.declined "Configuration file already exists. Use --force to overwrite."), t)
  else
    let (answer, t) := storeText t path starterConfig
    (answer.mapError (.error []), t)

end SmellRefactor
