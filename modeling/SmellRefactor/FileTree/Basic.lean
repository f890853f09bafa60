import SmellRefactor.OrderedMap.Basic
import SmellRefactor.Path.Basic
import SmellRefactor.SystemError

/-!
# File trees

A file tree gives what stands at a *location*, the list of the names that lead there from the root.
One directory of the tree is the current one, from which paths that do not begin at the root are
followed.  There are no links, so `..` leads to the directory above.
-/

namespace SmellRefactor

/-- The names that lead from the root to a file or directory. -/
abbrev Location := List String

/-- A device. -/
inductive Device where
  /-- Swallows whatever is written and has nothing to read. -/
  | null
  /-- Takes nothing, and gives zero bytes. -/
  | full
  /-- Swallows whatever is written and gives zero bytes. -/
  | zero
  /-- A terminal, which is not there. -/
  | terminal
deriving DecidableEq, Repr

/-- The bits of the permissions of a file: those of its owner, its group and all others. -/
abbrev Mode := Nat

/-- The permissions that a new file usually has: all may read and its owner may write. -/
def Mode.usual : Mode := 0o644

/-- Whether the permissions let someone start a file as a program. -/
def Mode.isExecutable (mode : Mode) : Bool :=
  mode.testBit 0 || mode.testBit 3 || mode.testBit 6

/-- What can stand at a location. -/
inductive FileNode where
  | directory
  | file (content : ByteArray) (mode : Mode)
  | device (device : Device)
  /-- An output of the program that works on the tree, with what has been written to it. -/
  | outlet (written : ByteArray)
  /-- A program that can be started, under the name by which it is known. -/
  | program (name : String)

namespace FileNode

/-- Whether it is a directory. -/
def isDirectory : FileNode → Bool
  | directory => true
  | _ => false

/-- Whether it is a device. -/
def isDevice : FileNode → Bool
  | device _ => true
  | _ => false

end FileNode

/-- Files and directories with a current directory. -/
structure FileTree where
  nodes : OrderedMap Location FileNode
  current : Location
  /-- How many more bytes the files can take together, if there is a limit. -/
  room : Option Nat

namespace FileTree

/-- The tree that has only its root. -/
def empty : FileTree := ⟨.empty, [], none⟩

instance : Inhabited FileTree := ⟨empty⟩

/-- What stands at a location; the root is always a directory. -/
def node? (t : FileTree) : Location → Option FileNode
  | [] => some .directory
  | location => t.nodes.find? location

/-- The tree with something else at a location. -/
def place (t : FileTree) (location : Location) (node : FileNode) : FileTree :=
  { t with nodes := t.nodes.insert location node }

/-- The tree without what stands at a location. -/
def erase (t : FileTree) (location : Location) : FileTree :=
  { t with nodes := t.nodes.filterMap fun l node => if l = location then none else some node }

/-- The location above a location; the root is above itself. -/
def above (location : Location) : Location := location.dropLast

/-- Makes sure that a location is a directory that can be searched. -/
def enter (t : FileTree) (location : Location) : Except SystemError Unit :=
  match t.node? location with
  | none => .error .notFound
  | some .directory => .ok ()
  | some _ => .error .notDirectory

/-- The number of bytes that a name may have. -/
def nameLimit : Nat := 255

/-- The number of bytes that a path must stay below. -/
def pathLimit : Nat := 4096

/-- Goes one component further from a location. -/
def step (t : FileTree) (location : Location) : Component → Except SystemError Location
  | .root => .ok []
  | .current => .ok location
  | .parent => do
    t.enter location
    return above location
  | .named name => do
    t.enter location
    if nameLimit < name.utf8ByteSize then .error .nameTooLong else .ok (location ++ [name])

/-- Follows components from a location. -/
def follow (t : FileTree) : List Component → Location → Except SystemError Location
  | [], location => .ok location
  | c :: components, location => do follow t components (← t.step location c)

/-- Whether the end of a path says that it leads to a directory. -/
def endsInDirectory (path : Path) : Bool := path.text.endsWith "/" || path.text.endsWith "/."

/-- Refuses what cannot be a path. -/
def check (path : Path) : Except SystemError Unit :=
  if path.text.contains '\x00' then .error .nulInPath
  else if path.isEmpty then .error .notFound
  else if pathLimit ≤ path.text.utf8ByteSize then .error .nameTooLong
  else .ok ()

/-- Where a path leads, whether or not something stands there. -/
def locate (t : FileTree) (path : Path) : Except SystemError Location := do
  check path
  t.follow path.components t.current

/-- What a path leads to. -/
def lookup (t : FileTree) (path : Path) : Except SystemError (Location × FileNode) := do
  let location ← t.locate path
  match t.node? location with
  | none => .error .notFound
  | some .directory => .ok (location, .directory)
  | some node => if endsInDirectory path then .error .notDirectory else .ok (location, node)

/-- Whether a path leads to something. -/
def exists? (t : FileTree) (path : Path) : Bool := (t.lookup path).isOk

/-- The bytes of a device that gives zero bytes; it has no end, so this is more than is ever read.
-/
def zeros : ByteArray := ⟨Array.replicate 65536 0⟩

/-- The bytes of a file. -/
def read (t : FileTree) (path : Path) : Except SystemError ByteArray := do
  match (← t.lookup path).2 with
  | .directory => .error .isDirectory
  | .file content _ => .ok content
  | .device .terminal => .error .noDevice
  | .device .null | .outlet _ => .ok .empty
  | .device .full | .device .zero => .ok zeros
  | .program _ => .error .notText

/-- The text of a file. -/
def readText (t : FileTree) (path : Path) : Except SystemError String := do
  match String.fromUTF8? (← t.read path) with
  | some text => .ok text
  | none => .error .notText

/-- The location of the file that a path leads to, and the tree in which the file exists.  A file
that is not there yet is made with the given permissions; one that is there keeps its content.  All
segments but the last have to lead through directories, and the last one has to be a name with no
slash behind it. -/
def openFile (t : FileTree) (mode : Mode) (path : Path) :
    Except SystemError (Location × FileTree) := do
  check path
  let (above, name) := path.splitLast
  let directory ← t.follow above.components t.current
  t.enter directory
  if name = "" ∨ name = "." ∨ name = ".." ∨ path.text.endsWith "/" then .error .isDirectory
  else if nameLimit < name.utf8ByteSize then .error .nameTooLong
  else
    let location := directory ++ [name]
    match t.node? location with
    | some .directory => .error .isDirectory
    | some (.program _) => .error .permissionDenied
    | some (.device .terminal) => .error .noDevice
    | some _ => .ok (location, t)
    | none => .ok (location, t.place location (.file .empty mode))

/-- The content of the file at a location; whatever is no file counts as empty. -/
def contentAt (t : FileTree) (location : Location) : ByteArray :=
  match t.node? location with
  | some (.file content _) => content
  | _ => .empty

/-- Empties the file at a location, which gives its room back. -/
def truncate (t : FileTree) (location : Location) : FileTree :=
  match t.node? location with
  | some (.file content mode) =>
    { t.place location (.file .empty mode) with room := t.room.map (· + content.size) }
  | _ => t

/-- The empty file that a path leads to; a new one gets the given permissions. -/
def createAs (t : FileTree) (mode : Mode) (path : Path) :
    Except SystemError (Location × FileTree) := do
  let (location, t) ← t.openFile mode path
  .ok (location, t.truncate location)

/-- The empty file that a path leads to. -/
def create (t : FileTree) (path : Path) : Except SystemError (Location × FileTree) :=
  t.createAs Mode.usual path

/-- Writes bytes at the end of the file at a location.  Where the room ends, the bytes that still
fit are written and the others are refused. -/
def append (t : FileTree) (location : Location) (bytes : ByteArray) :
    Except SystemError Unit × FileTree :=
  match t.node? location with
  | some (.file content mode) =>
    match t.room with
    | none => (.ok (), t.place location (.file (content ++ bytes) mode))
    | some room =>
      let t := { t.place location (.file (content ++ bytes.extract 0 room) mode) with
        room := some (room - bytes.size) }
      (if bytes.size ≤ room then .ok () else .error .noSpace, t)
  | some (.device .full) => (if bytes.isEmpty then .ok () else .error .noSpace, t)
  | some (.outlet written) => (.ok (), t.place location (.outlet (written ++ bytes)))
  | _ => (.ok (), t)

/-- Puts a text into the file that a path leads to, in place of what it held. -/
def writeText (t : FileTree) (path : Path) (text : String) : Except SystemError Unit × FileTree :=
  match t.create path with
  | .error error => (.error error, t)
  | .ok (location, t) => t.append location text.toUTF8

/-- Takes away the file that a path leads to. -/
def remove (t : FileTree) (path : Path) : Except SystemError FileTree := do
  match ← t.lookup path with
  | (_, .directory) => .error .isDirectory
  | (location, _) => .ok (t.erase location)

/-- Makes the directories from the root down to a location. -/
def makeDirectories (t : FileTree) (location : Location) : FileTree :=
  (List.range location.length).foldl
    (fun t n =>
      let l := location.take (n + 1)
      if (t.node? l).isSome then t else t.place l .directory) t

/-- Makes another directory the current one. -/
def changeDirectory (t : FileTree) (path : Path) : Except SystemError FileTree := do
  match ← t.lookup path with
  | (location, .directory) => .ok { t with current := location }
  | _ => .error .notDirectory

/-- The path of a location from the root. -/
def absolute (location : Location) : Path :=
  ⟨if location.isEmpty then "/" else String.join (location.map ("/" ++ ·))⟩

/-- The path of the current directory. -/
def here (t : FileTree) : Path := absolute t.current

/-- The path of the current directory, which may have been taken away meanwhile. -/
def currentPath (t : FileTree) : Except SystemError Path :=
  match t.node? t.current with
  | some .directory => .ok t.here
  | _ => .error .notFound

end FileTree

end SmellRefactor
