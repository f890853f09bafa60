import SmellRefactor.Toml.Error
import SmellRefactor.Toml.Value

/-!
# The tables of a document while it is read

A table remembers how it came to be, because that decides what may still be added to it: a table
that a header named may be entered by the headers of its parts, a table that a key with points made
only by such keys next to it, and a value is closed.
-/

namespace SmellRefactor.Toml

/-- How a table came to be: as the way to another table, by a key with points, or by a header. -/
inductive Origin where
  | passed
  | dotted
  | named
deriving DecidableEq, Repr

/-- A table under construction, or a finished value. -/
inductive Node where
  | value (value : Value)
  | table (origin : Origin) (members : List (String × Node))
  | tables (items : List (List (String × Node)))
deriving Inhabited

/-- The members of a table, in the order of the text. -/
abbrev Members := List (String × Node)

namespace Members

/-- The node under a key. -/
def find? (members : Members) (key : String) : Option Node :=
  (List.find? (fun e => e.1 == key) members).map (·.2)

/-- Puts a node under a key, in place of the one that is there or at the end. -/
def set (key : String) (node : Node) : Members → Members
  | [] => [(key, node)]
  | (k, old) :: rest => if k = key then (k, node) :: rest else (k, old) :: set key node rest

/-- Changes the table at the end of a path.  Tables on the way are made when they are missing;
`dotted` tells whether the path is part of a key with points, which may not enter a table that a
header named. -/
def within (dotted : Bool) (change : Origin → Members → Except Cause (Origin × Members)) :
    List String → Origin → Members → Except Cause (Origin × Members)
  | [], origin, members => change origin members
  | key :: path, origin, members =>
    match members.find? key with
    | none =>
      match within dotted change path (if dotted then .dotted else .passed) [] with
      | .error e => .error e
      | .ok (o, inner) => .ok (origin, members.set key (.table o inner))
    | some (.value _) => .error .closedTable
    | some (.table o inner) =>
      if dotted && o == .named then .error .repeatedKey
      else match within dotted change path o inner with
        | .error e => .error e
        | .ok (o, inner) => .ok (origin, members.set key (.table o inner))
    | some (.tables items) =>
      match within dotted change path .named (items.getLast?.getD []) with
      | .error e => .error e
      | .ok (_, inner) => .ok (origin, members.set key (.tables (items.dropLast ++ [inner])))

/-- Adds a value under a key with points. -/
def addValue (key : List String) (value : Value) (origin : Origin) (members : Members) :
    Except Cause (Origin × Members) :=
  let path := key.dropLast
  let last := key.getLast?.getD ""
  within true (fun origin inner =>
    if (origin == .dotted) == path.isEmpty then .error .repeatedKey
    else match inner.find? last with
      | some _ => .error .repeatedKey
      | none => .ok (origin, inner ++ [(last, .value value)])) path origin members

/-- Opens the table that a header names. -/
def openTable (key : List String) (root : Members) : Except Cause Members :=
  let last := key.getLast?.getD ""
  (within false (fun origin inner =>
    match inner.find? last with
    | none => .ok (origin, inner ++ [(last, .table .named [])])
    | some (.table .passed members) => .ok (origin, inner.set last (.table .named members))
    | some _ => .error .repeatedKey) key.dropLast .named root).map (·.2)

/-- Opens another table in the list of tables that a header names. -/
def openItem (key : List String) (root : Members) : Except Cause Members :=
  let last := key.getLast?.getD ""
  (within false (fun origin inner =>
    match inner.find? last with
    | none => .ok (origin, inner ++ [(last, .tables [[]])])
    | some (.tables items) => .ok (origin, inner.set last (.tables (items ++ [[]])))
    | some _ => .error .repeatedKey) key.dropLast .named root).map (·.2)

end Members

/-- Puts a member into a list that is in the order of keys. -/
def insertMember (key : String) (value : Value) : List (String × Value) → List (String × Value)
  | [] => [(key, value)]
  | (k, v) :: rest =>
    if compare key k = .lt then (key, value) :: (k, v) :: rest
    else (k, v) :: insertMember key value rest

mutual

/-- The finished value of a node, its tables in the order of keys. -/
def Node.finish : Node → Value
  | .value v => v
  | .table _ members => .table (finishMembers members)
  | .tables items => .list (finishTables items)

/-- The finished members of a table. -/
def finishMembers : List (String × Node) → List (String × Value)
  | [] => []
  | (key, node) :: rest => insertMember key node.finish (finishMembers rest)

/-- The finished tables of a list. -/
def finishTables : List (List (String × Node)) → List Value
  | [] => []
  | members :: rest => .table (finishMembers members) :: finishTables rest

end

end SmellRefactor.Toml
