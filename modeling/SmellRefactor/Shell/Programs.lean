import SmellRefactor.FileTree.Basic

/-!
# Programs

The programs of a file tree.  A name without a slash is looked for in the usual directories; any
other name is a path.
-/

namespace SmellRefactor.Shell

/-- The directories in which programs are looked for. -/
def searchPath : List String :=
  ["/usr/local/sbin", "/usr/local/bin", "/usr/sbin", "/usr/bin", "/sbin", "/bin"]

/-- The names of the programs that are there. -/
def programNames : List String :=
  ["sh", "dash", "bash", "env", "true", "false", "sleep", "sync", "echo", "printf", "test", "[",
    "basename", "dirname", "seq", "yes", "cat", "head", "wc", "grep", "egrep", "fgrep", "ls", "cp",
    "mv", "rm", "touch", "mkdir", "pwd", "sed", "awk", "mawk", "tr", "cut", "sort", "uniq", "tail",
    "tee", "chmod", "cmp", "diff", "comm", "expr", "timeout", "rmdir", "tac", "rev", "nl", "paste",
    "find", "xargs", "readlink", "realpath", "id", "whoami", "uname", "printenv", "nohup", "nice",
    "kill", "fold", "base64", "truncate", "stat", "install", "unlink", "od", "mktemp", "hostname",
    "arch", "nproc", "logname", "tty", "split", "shuf", "join", "expand", "unexpand", "md5sum",
    "sha1sum", "sha224sum", "sha256sum", "sha384sum", "sha512sum", "sum", "groups", "cksum",
    "date", "dd", "du", "df", "ln", "link", "mkfifo", "which"]

/-- A file tree with the programs, the devices, and a directory for temporary files. -/
def systemTree : FileTree :=
  let directories : List Location :=
    [["bin"], ["usr", "bin"], ["usr", "local", "bin"], ["dev"], ["tmp"], ["etc"], ["home"],
      ["root"]]
  let tree := directories.foldl FileTree.makeDirectories .empty
  let tree := programNames.foldl
    (fun tree name => (tree.place ["bin", name] (.program name)).place ["usr", "bin", name]
      (.program name)) tree
  let devices : List (String × FileNode) :=
    [("null", .device .null), ("full", .device .full), ("zero", .device .zero),
      ("tty", .device .terminal), ("stdin", .device .null), ("stdout", .outlet .empty),
      ("stderr", .outlet .empty)]
  devices.foldl (fun tree (name, node) => tree.place ["dev", name] node) tree

/-- What can be started. -/
inductive Executable where
  /-- A program under the name by which it is known. -/
  | known (name : String)
  /-- A file that holds a script. -/
  | script (path : String) (content : ByteArray)

/-- What can be started at a path. -/
def programAt (tree : FileTree) (path : Path) : Except SystemError Executable := do
  match (← tree.lookup path).2 with
  | .program name => .ok (.known name)
  | .file content mode =>
    if mode.isExecutable then .ok (.script path.text content) else .error .permissionDenied
  | _ => .error .permissionDenied

/-- The paths at which a program of a name can be, given where programs are looked for. -/
def candidates (directories : List String) (program : String) : List Path :=
  if program.contains '/' then [⟨program⟩]
  else directories.map fun directory =>
    if directory.isEmpty then ⟨program⟩ else Path.join ⟨directory⟩ program

/-- Whether something is there that cannot be started. -/
def isRefusal : Except SystemError Executable → Bool
  | .error .permissionDenied => true
  | _ => false

/-- What is started under a name or a path. -/
def findProgram (tree : FileTree) (directories : List String) (program : String) :
    Except SystemError Executable :=
  if program.contains '/' then programAt tree ⟨program⟩
  else if program.isEmpty then .error .notFound
  else if FileTree.nameLimit < program.utf8ByteSize then .error .nameTooLong
  else
    let found := (candidates directories program).map (programAt tree)
    match found.findSome? Except.toOption with
    | some program => .ok program
    | none => .error (if found.any isRefusal then .permissionDenied else .notFound)

/-- The path of the program of a name. -/
def programPath? (tree : FileTree) (directories : List String) (program : String) :
    Option String :=
  ((candidates directories program).find? fun path => (programAt tree path).isOk).map Path.text

end SmellRefactor.Shell
