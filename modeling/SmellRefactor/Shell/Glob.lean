import SmellRefactor.FileTree.Basic
import SmellRefactor.Shell.Field

/-!
# Names that match a pattern

A field with a star, a question mark or a bracket that is not quoted stands for the paths that it
matches, if there are any.
-/

namespace SmellRefactor.Shell

/-- Whether a field is a pattern. -/
def isPattern (field : Field.Chars) : Bool :=
  field.any fun (c, quoted) => !quoted && (c = '*' || c = '?' || c = '[')

/-- The parts of a field between slashes. -/
def partsOf (field : Field.Chars) : List Field.Chars :=
  field.foldr
    (fun entry parts =>
      match parts with
      | part :: others => if entry.1 = '/' then [] :: part :: others else (entry :: part) :: others
      | [] => [[entry]]) [[]]

/-- The names of what stands in a directory, in the order of their bytes. -/
def namesIn (tree : FileTree) (directory : Location) : List String :=
  let names := tree.nodes.keys.filterMap fun location =>
    match location.getLast? with
    | some name => if location.dropLast = directory then some (encoded name) else none
    | none => none
  names.mergeSort fun a b => decide (a ≤ b)

/-- The names in a directory that a part of a field matches, in their order.  A name that begins
with a dot is only matched by a part that begins with one. -/
def matchingNames (negators : List Char) (tree : FileTree) (directory : Location)
    (part : Field.Chars) : List String :=
  let pattern := patternOf negators part
  let hidden := part.head?.any fun entry => entry.1 = '.'
  ([".", ".."] ++ namesIn tree directory).filter fun name =>
    (hidden || !name.startsWith ".") && matchesAll pattern name.toList

/-- The paths that the parts of a field match behind a path that is written already. -/
def matchingPaths (negators : List Char) (tree : FileTree) :
    List Field.Chars → String → List String
  | [], written => [written]
  | [part], written =>
    (namesFor part written).map (written ++ ·)
  | part :: parts, written =>
    (namesFor part written).flatMap fun name =>
      matchingPaths negators tree parts (written ++ name ++ "/")
where
  /-- The names that a part can stand for behind a path. -/
  namesFor (part : Field.Chars) (written : String) : List String :=
    if isPattern part then
      match tree.lookup (pathOf (if written.isEmpty then "." else written)) with
      | .ok (location, .directory) => matchingNames negators tree location part
      | _ => []
    else if part.isEmpty || tree.exists? (pathOf (written ++ fieldText part)) then
      [fieldText part]
    else []

/-- The paths that a field stands for, none if it is no pattern or matches nothing. -/
def pathsFor (negators : List Char) (tree : FileTree) (field : Field.Chars) : List String :=
  if isPattern field then matchingPaths negators tree (partsOf field) "" else []

end SmellRefactor.Shell
