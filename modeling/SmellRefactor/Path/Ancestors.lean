import SmellRefactor.Path.Basic

/-!
# Ancestors of a directory

`Path.parent?` takes the last component off a path, together with the slashes and `.` segments
around it.  `Path.ancestors` repeats this, nearest directory first, up to a number of directories.
-/

namespace SmellRefactor.Path

/-- Drops the slashes and `.` segments at the front of a reversed body. -/
def dropIdle : List Char → List Char
  | '/' :: rest => dropIdle rest
  | ['.'] => []
  | '.' :: '/' :: rest => dropIdle rest
  | other => other

/-- The text of the parent directory: nothing for the root and for the empty text, otherwise the
text that ends with the last component but one. -/
def parentText? (text : List Char) : Option (List Char) :=
  let (start, body) := split text
  match dropIdle body.reverse with
  | [] => if start = .current then some [] else none
  | last => some (start.text ++ (dropIdle (last.dropWhile (· ≠ '/'))).reverse)

/-- The parent directory. -/
def parent? (p : Path) : Option Path :=
  (parentText? p.text.toList).map fun text => ⟨String.ofList text⟩

/-- The directory itself and its ancestors, nearest first, at most `depth` of them. -/
def ancestors (start : Path) : Nat → List Path
  | 0 => []
  | depth + 1 => start :: match start.parent? with
    | none => []
    | some parent => ancestors parent depth

end SmellRefactor.Path
