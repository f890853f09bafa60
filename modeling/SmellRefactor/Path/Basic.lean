/-!
# Paths

A path is the text that a user wrote.  It is shown as written, but two paths are the same path when
they have the same *components*: repeated and trailing slashes and inner `.` segments carry no
meaning.  Paths are ordered by their lists of components, with the root before `.`, `.` before
`..`, and `..` before names; names are ordered by their characters' code points, which is also the
order of their UTF-8 bytes.
-/

namespace SmellRefactor

/-- A path, as the text that was written. -/
structure Path where
  text : String
deriving DecidableEq, Repr, Inhabited

/-- One step of a path. -/
inductive Component where
  | root
  | current
  | parent
  | named (name : String)
deriving DecidableEq, Repr

namespace Component

/-- The place of a component among the four kinds. -/
def rank : Component → Nat
  | root => 0
  | current => 1
  | parent => 2
  | named _ => 3

/-- The name of a component, empty for those that have none. -/
def label : Component → String
  | named name => name
  | _ => ""

/-- Components are compared by kind, then by name. -/
instance : Ord Component where
  compare := compareLex (compareOn rank) (compareOn label)

instance : Std.TransOrd Component :=
  inferInstanceAs (Std.TransCmp (compareLex (compareOn rank) (compareOn label)))

/-- Components that compare as equal are equal. -/
instance : Std.LawfulEqOrd Component where
  eq_of_compare {a b} h := by
    have h := compareLex_eq_eq.1 h
    cases a <;> cases b <;> simp_all [compareOn, rank, label]

/-- The component that one segment of a path, not its first, stands for; blank segments and `.`
stand for none. -/
def ofSegment? : List Char → Option Component
  | [] => none
  | ['.'] => none
  | ['.', '.'] => some parent
  | name => some (named (String.ofList name))

end Component

namespace Path

/-- The pieces of a text between slashes; there is always at least one. -/
def segments : List Char → List (List Char)
  | [] => [[]]
  | c :: rest =>
    if c = '/' then [] :: segments rest
    else match segments rest with
      | [] => [[c]]
      | first :: others => (c :: first) :: others

/-- How a path begins: at the root, at an explicit `.`, or with a first name. -/
inductive Start where
  | root
  | current
  | name
deriving DecidableEq, Repr

namespace Start

/-- The characters that a start takes from the path. -/
def text : Start → List Char
  | root => ['/']
  | current => ['.']
  | name => []

/-- The component that a start contributes. -/
def component? : Start → Option Component
  | root => some .root
  | current => some .current
  | name => none

end Start

/-- Splits a path into its start and the body that follows. -/
def split : List Char → Start × List Char
  | '/' :: rest => (.root, rest)
  | ['.'] => (.current, [])
  | '.' :: '/' :: rest => (.current, '/' :: rest)
  | other => (.name, other)

/-- The components of a text. -/
def componentsOf (text : List Char) : List Component :=
  let (start, body) := split text
  start.component?.toList ++ (segments body).filterMap Component.ofSegment?

/-- The components of a path. -/
def components (p : Path) : List Component := componentsOf p.text.toList

/-- The path up to its last segment that is not blank, and that segment, which may be `.` or `..`.
-/
def splitLast (p : Path) : Path × String :=
  let backwards := p.text.toList.reverse.dropWhile (· == '/')
  (⟨String.ofList (backwards.dropWhile (· ≠ '/')).reverse⟩,
    String.ofList (backwards.takeWhile (· ≠ '/')).reverse)

/-- Whether the text of the path is empty. -/
def isEmpty (p : Path) : Bool := p.text.isEmpty

/-- Paths are compared by their components. -/
instance : Ord Path where
  compare := compareOn components

instance : Std.TransOrd Path :=
  inferInstanceAs (Std.TransCmp (compareOn components))

/-- Two paths are the same key exactly when their components agree. -/
theorem compare_eq_iff {p q : Path} : compare p q = .eq ↔ p.components = q.components := by
  change compare p.components q.components = .eq ↔ _
  exact Std.compare_eq_iff_eq

/-- Whether two texts name the same path. -/
def same (p q : Path) : Bool := compare p q == .eq

/-- The path below `p` that is called `name`. -/
def join (p : Path) (name : String) : Path :=
  if p.text.isEmpty || p.text.endsWith "/" then ⟨p.text ++ name⟩ else ⟨p.text ++ "/" ++ name⟩

end Path

end SmellRefactor
