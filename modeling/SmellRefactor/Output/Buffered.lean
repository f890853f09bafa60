import SmellRefactor.FileTree.Basic

/-!
# Buffered output

Pieces of text that are written to a file are held back until there are enough of them.  What is
still held back when the output is closed is written then, and whether that succeeds is not told.
-/

namespace SmellRefactor.Output

/-- How many bytes can be held back. -/
def bufferSize : Nat := 8192

/-- A file that is written to, with what is held back. -/
structure Buffered where
  tree : FileTree
  target : Location
  held : ByteArray

namespace Buffered

/-- An output to the file at a location, with nothing held back. -/
def ofLocation (tree : FileTree) (target : Location) : Buffered := ⟨tree, target, .empty⟩

/-- Hands bytes to the file. -/
def deliver (b : Buffered) (bytes : ByteArray) : Except SystemError Unit × Buffered :=
  let (answer, tree) := b.tree.append b.target bytes
  (answer, { b with tree := tree })

/-- Writes out what is held back.  Bytes that the file took are no longer held back, also when it
refused those behind them. -/
def flush (b : Buffered) : Except SystemError Unit × Buffered :=
  let before := (b.tree.contentAt b.target).size
  match b.deliver b.held with
  | (.ok (), b) => (.ok (), { b with held := .empty })
  | (.error error, b) =>
    let taken := (b.tree.contentAt b.target).size - before
    (.error error, { b with held := b.held.extract taken b.held.size })

/-- Holds bytes back, or hands them to the file if they alone would fill the buffer. -/
def accept (b : Buffered) (bytes : ByteArray) : Except SystemError Unit × Buffered :=
  if bufferSize ≤ bytes.size then b.deliver bytes
  else (.ok (), { b with held := b.held ++ bytes })

/-- Writes bytes, making room in the buffer first where they do not fit. -/
def write (b : Buffered) (bytes : ByteArray) : Except SystemError Unit × Buffered :=
  if b.held.size + bytes.size ≤ bufferSize then b.accept bytes
  else
    match b.flush with
    | (.error error, b) => (.error error, b)
    | (.ok (), b) => b.accept bytes

/-- Writes pieces of text until one is refused. -/
def writeAll : List String → Buffered → Except SystemError Unit × Buffered
  | [], b => (.ok (), b)
  | piece :: pieces, b =>
    match b.write piece.toUTF8 with
    | (.error error, b) => (.error error, b)
    | (.ok (), b) => writeAll pieces b

/-- Ends the output: what is held back is written, and a refusal is passed over. -/
def close (b : Buffered) : FileTree := b.flush.2.tree

end Buffered

/-- Writes pieces of text to the file at a location. -/
def writePieces (tree : FileTree) (target : Location) (pieces : List String) :
    Except SystemError Unit × FileTree :=
  let (answer, b) := (Buffered.ofLocation tree target).writeAll pieces
  (answer, b.close)

end SmellRefactor.Output
