import SmellRefactor.Config.Basic
import SmellRefactor.Toml.Reader

/-!
# Configurations in TOML

The configuration that a document describes.  The members of a table are looked at in the order of
their keys, and fields that are missing come last.  A record may also be given as the list of its
values; whatever follows the last of them is not looked at.
-/

namespace SmellRefactor.Toml

open Decimal (twoTo)

/-- What a value is called in messages. -/
def Value.found : Value → Found
  | .text s => .text s
  | .integer n =>
    if -(twoTo 63 : Int) ≤ n ∧ n < twoTo 64 then .integer n
    else if -(twoTo 127 : Int) ≤ n ∧ n < twoTo 127 then .wideInteger n "i128"
    else .wideInteger n "u128"
  | .float x => .float x
  | .boolean b => .boolean b
  | .dateTime => .map
  | .list _ => .sequence
  | .table _ => .map

/-- The problem of a value of the wrong kind. -/
def Value.wrongType (v : Value) (expected : Expected) : Except Misfit α :=
  .error (.wrongType v.found expected)

/-- Takes a value as a text. -/
def asText : Value → Except Misfit String
  | .text s => .ok s
  | v => v.wrongType .string

/-- Takes a value as a boolean. -/
def asBoolean : Value → Except Misfit Bool
  | .boolean b => .ok b
  | v => v.wrongType .boolean

/-- Takes a value as a whole number of at most 64 bits. -/
def asCount : Value → Except Misfit Nat
  | .integer n =>
    if 0 ≤ n ∧ n < twoTo 64 then .ok n.toNat
    else if n < 0 ∧ -(twoTo 63 : Int) ≤ n then .error (.wrongValue (.integer n) .count)
    else (Value.integer n).wrongType .count
  | v => v.wrongType .count

/-- Takes a value as a list of values of one kind. -/
def asList (item : Value → Except Misfit α) : Value → Except Misfit (List α)
  | .list items => items.mapM item
  | v => v.wrongType .sequence

/-- A field of a record under construction. -/
structure Field (π : Type) where
  name : String
  /-- Takes the value of the field. -/
  take : π → Value → Except Misfit π
  /-- Whether a list of values may end before this field. -/
  optional : Bool

/-- A record: its name, its fields in order, and how it is built from what was given. -/
structure Shape (π α : Type) where
  label : String
  fields : List (Field π)
  blank : π
  /-- The finished record, or the name of a field that is missing. -/
  finish : π → Except String α

namespace Shape

variable {π α : Type}

/-- Takes the members of a table one after another; unknown keys are ignored. -/
def takeMembers (shape : Shape π α) : List (String × Value) → π → Except Misfit π
  | [], built => .ok built
  | (key, value) :: rest, built =>
    match shape.fields.find? fun field => field.name == key with
    | none => takeMembers shape rest built
    | some field =>
      match field.take built value with
      | .error e => .error e
      | .ok built => takeMembers shape rest built

/-- Takes the values of the fields from a list. -/
def takeValues (shape : Shape π α) : List (Field π) → List Value → Nat → π → Except Misfit π
  | [], _, _, built => .ok built
  | field :: fields, [], index, built =>
    if field.optional then takeValues shape fields [] (index + 1) built
    else .error (.tooShort index shape.label shape.fields.length)
  | field :: fields, value :: values, index, built =>
    match field.take built value with
    | .error e => .error e
    | .ok built => takeValues shape fields values (index + 1) built

/-- Finishes a record. -/
def close (shape : Shape π α) (built : π) : Except Misfit α :=
  match shape.finish built with
  | .ok a => .ok a
  | .error name => .error (.missingField name)

/-- Takes a value as a record. -/
def take (shape : Shape π α) : Value → Except Misfit α
  | .table members => do shape.close (← shape.takeMembers members shape.blank)
  | .dateTime => shape.close shape.blank
  | .list items => do shape.close (← shape.takeValues shape.fields items 0 shape.blank)
  | v => v.wrongType (.struct shape.label)

end Shape

/-- Settings of parallel work; both fields may be left out. -/
def parallelismShape : Shape Parallelism Parallelism where
  label := "ParallelConfig"
  fields :=
    [ ⟨"enabled", fun p v => (asBoolean v).map fun b => { p with enabled := b }, true⟩,
      ⟨"max_concurrency", fun p v => (asCount v).map fun n => { p with limit := some n }, true⟩ ]
  blank := .standard
  finish := .ok

/-- A configured tool under construction. -/
structure ToolDraft where
  smell : Option String
  program : Option String
  args : List String
  name : Option String

/-- A configured tool; its arguments and its name may be left out. -/
def toolShape : Shape ToolDraft ToolEntry where
  label := "StrategyCommandConfig"
  fields :=
    [ ⟨"smell", fun d v => (asText v).map fun s => { d with smell := some s }, false⟩,
      ⟨"program", fun d v => (asText v).map fun s => { d with program := some s }, false⟩,
      ⟨"args", fun d v => (asList asText v).map fun s => { d with args := s }, true⟩,
      ⟨"name", fun d v => (asText v).map fun s => { d with name := some s }, true⟩ ]
  blank := ⟨none, none, [], none⟩
  finish d :=
    match d.smell, d.program with
    | none, _ => .error "smell"
    | _, none => .error "program"
    | some smell, some program => .ok ⟨smell, program, d.args, d.name⟩

/-- A configuration; both fields may be left out. -/
def configurationShape : Shape Configuration Configuration where
  label := "SmellfixConfig"
  fields :=
    [ ⟨"parallel",
        fun c v => (parallelismShape.take v).map fun p => { c with parallel := p }, true⟩,
      ⟨"strategies",
        fun c v => (asList toolShape.take v).map fun s => { c with strategies := s }, true⟩ ]
  blank := .standard
  finish := .ok

/-- The configuration that a text describes, unchecked. -/
def configurationOfText (text : String) : Except Error Configuration :=
  match membersOfText text with
  | .error e => .error e
  | .ok members =>
    match configurationShape.take (.table members) with
    | .error m => .error (.misfit m)
    | .ok c => .ok c

end SmellRefactor.Toml
