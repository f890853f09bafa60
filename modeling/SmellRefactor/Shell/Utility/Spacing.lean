import SmellRefactor.Shell.Utility.Basic

/-!
# Programs that change the space in lines

`expand` writes blanks for tabs, and `unexpand` tabs for blanks.
-/

namespace SmellRefactor.Shell

/-- The places to which tabs lead: every multiple of a number, or those of a list. -/
inductive TabStops where
  | every (size : Nat)
  | listed (stops : List Nat)
deriving Repr

namespace TabStops

/-- The next stop behind a place, if there is one. -/
def next? (stops : TabStops) (place : Nat) : Option Nat :=
  match stops with
  | every size => some ((place / size + 1) * size)
  | listed stops => stops.find? fun stop => place < stop

/-- Reads a list of stops. -/
def read (text : String) : Except String TabStops := do
  let parts := ((text.splitOn ",").flatMap fun part => part.splitOn " ").filter fun part =>
    !part.isEmpty
  let stops ← parts.mapM fun part => match part.toNat? with
    | some n => .ok n
    | none =>
      let shown := String.ofList (part.toList.dropWhile Char.isDigit)
      .error ("tab size contains invalid character(s): '" ++ shown ++ "'")
  let isAscending := (stops.zip (stops.drop 1)).all fun pair => pair.1 < pair.2
  if stops.contains 0 then throw "tab size cannot be 0"
  else if !isAscending then throw "tab sizes must be ascending"
  else match stops with
    | [] => return every 8
    | [size] => return every size
    | stops => return listed stops

end TabStops

/-- Arguments in which a size of tabs such as `-4` is written as an option with a value. -/
def withTabSize (args : List String) : List String :=
  args.map fun arg =>
    match arg.toList with
    | '-' :: c :: cs =>
      if c.isDigit && cs.all fun d => d.isDigit || d = ',' then "-t" ++ String.ofList (c :: cs)
      else arg
    | _ => arg

/-- A line with blanks in the place of its tabs, or only of those before anything else. -/
def expandLine (stops : TabStops) (leading : Bool) (line : List Char) : List Char :=
  let step (state : List Char × Nat × Bool) (c : Char) : List Char × Nat × Bool :=
    let (shown, place, active) := state
    let active := active && (!leading || c = ' ' || c = '\t')
    if c = '\t' && active then
      let stop := (stops.next? place).getD (place + 1)
      (List.replicate (stop - place) ' ' ++ shown, stop, active)
    else if c = '\x08' then (c :: shown, place - 1, active)
    else (c :: shown, place + 1, active)
  (line.foldl step ([], 0, true)).1.reverse

/-- Where the reading of a line stands whose blanks are to become tabs. -/
structure BlankState where
  /-- What has been written, the last first. -/
  shown : List Char
  /-- The blanks that may still become a tab. -/
  pending : List Char
  place : Nat
  active : Bool
  /-- Whether a blank was before. -/
  blank : Bool
  /-- Whether a single blank led to a stop. -/
  single : Bool

namespace BlankState

/-- What has been written once the blanks before a character are settled. -/
def settle (s : BlankState) (c : Char) (isBlank all : Bool) : BlankState :=
  let pending := if 1 < s.pending.length && s.single then '\t' :: s.pending.drop 1 else s.pending
  { s with
    shown := c :: (pending.reverse ++ s.shown), pending := []
    single := s.single && s.pending.isEmpty, blank := isBlank
    active := s.active && (all || isBlank) }

/-- Reads a character. -/
def read (stops : TabStops) (all : Bool) (s : BlankState) (c : Char) : BlankState :=
  if !s.active then { s with shown := c :: s.shown }
  else if !(c = ' ' || c = '\t') then
    { s with place := if c = '\x08' then s.place - 1 else s.place + 1 }.settle c false all
  else match stops.next? s.place with
  | none => { s with active := false }.settle c true all
  | some stop =>
    let kept (pending : List Char) : List Char := if s.single then pending.take 1 else []
    if c = '\t' then
      let pending := if s.pending.isEmpty then [] else '\t' :: s.pending.drop 1
      { s with place := stop, pending := kept pending }.settle c true all
    else
      let place := s.place + 1
      if s.blank && place = stop then
        { s with place := place, pending := kept ('\t' :: s.pending.drop 1) }.settle '\t' true all
      else
        { s with
          place := place, pending := s.pending ++ [c], blank := true
          single := s.single || place = stop }

end BlankState

/-- A line with tabs in the place of its blanks, or only of those before anything else. -/
def unexpandLine (stops : TabStops) (all : Bool) (line : List Char) : List Char :=
  let s := line.foldl (BlankState.read stops all) ⟨[], [], 0, true, true, false⟩
  (s.pending.reverse ++ s.shown).reverse

/-- Writes files with each of their lines changed. -/
def changeLines (change : Options → TabStops → List Char → List Char) (table : OptionTable) :
    Builtin := fun args m =>
  withTable table
    (fun o m =>
      match TabStops.read (",".intercalate (o.values 't')) with
      | .error text => m.report text 1
      | .ok stops =>
        let one (line : String) : String := String.ofList (change o stops line.toList)
        let (status, m) := readFiles aboutFile
          (fun _ text m => m.print 1 (String.join ((fullLines text).map one))) 1 o.files m
        m.done status) (withTabSize args) m

/-- Writes blanks for tabs. -/
def expand : Builtin :=
  changeLines (fun o stops => expandLine stops (o.has 'i'))
    { flags := "i", valued := "t", mixed := true, badStatus := 1
      long := [("initial", 'i'), ("tabs", 't')] }

/-- Writes tabs for blanks. -/
def unexpand : Builtin :=
  changeLines (fun o stops => unexpandLine stops ((o.has 'a' || o.has 't') && !o.has 'f'))
    { flags := "af", valued := "t", mixed := true, badStatus := 1
      long := [("all", 'a'), ("first-only", 'f'), ("tabs", 't')] }

end SmellRefactor.Shell
