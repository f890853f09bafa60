import SmellRefactor.Program
import SmellRefactor.Shell.Launch

/-!
# The command line program

The files that a command line names are read into a file tree, together with the configuration
files above the current directory.  The program runs on the tree, and the files that it has changed
are written back.  What is proved about the program holds for every way of starting tools.  The one
chosen here is a shell with a few usual commands, a stand-in for the system of which nothing is
proved.
-/

namespace SmellRefactor.Main

/-- The paths that a request can read or write. -/
def pathsOf (here : Path) : CommandLine.Request → List Path
  | .init _ => [⟨Config.fileName⟩]
  | .refactor options =>
    options.input :: (options.config.toList ++ options.output.toList ++ Config.candidates here)

/-- Puts into the tree what stands at a path. -/
def snapshot (tree : FileTree) (path : Path) : IO FileTree := do
  match tree.locate path with
  | .error _ => return tree
  | .ok location =>
    let tree := tree.makeDirectories (FileTree.above location)
    try
      let content ← IO.FS.readBinFile path.text
      return tree.place location (.file content Mode.usual)
    catch _ => return tree

/-- Writes back a file that the program has changed. -/
def writeBack (before : FileTree) (entry : Location × FileNode) : IO Unit := do
  match entry with
  | (location, .file content _) =>
    let known := match before.node? location with
      | some (.file old _) => old.data == content.data
      | _ => false
    unless known do
      IO.FS.writeBinFile (FileTree.absolute location).text content
  | _ => return

/-- The locations of the names of a path. -/
def locationOf (path : Path) : Location :=
  path.components.filterMap fun c =>
    match c with
    | .named name => some name
    | _ => none

end SmellRefactor.Main

open SmellRefactor in
/-- Runs the program on the words of the command line. -/
def main (words : List String) : IO UInt32 := do
  let here : Path := ⟨(← IO.currentDir).toString⟩
  let jobs? ← IO.getEnv "SMELLFIX_JOBS"
  let words := "smellfix" :: words
  let current := Main.locationOf here
  let start := { Shell.systemTree.makeDirectories current with current := current }
  let paths := match CommandLine.parse words jobs? with
    | .ok request => Main.pathsOf here request
    | .error _ => []
  let before ← paths.foldlM Main.snapshot start
  let ending := runProgram Shell.launch .plain words jobs? before
  ending.tree.nodes.entries.forM (Main.writeBack before)
  (← IO.getStdout).putStr ending.printed
  (← IO.getStderr).putStr ending.complaint
  return ending.exitCode.toUInt32
