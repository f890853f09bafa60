import SmellRefactor.Shell.Utility.Basic

/-!
# Lines with the same field

`join` goes through two sorted files side by side and writes a line for each two lines with the same
field.
-/

namespace SmellRefactor.Shell

/-- A line of a file, with its number and its fields. -/
structure FieldLine where
  number : Nat
  text : String
  fields : List String
deriving Repr

/-- What comes out of two files that are gone through side by side. -/
inductive JoinEvent where
  | both (left right : FieldLine)
  | left (line : FieldLine)
  | right (line : FieldLine)
  /-- A line of the first file, or else of the second one, that is out of order. -/
  | disorder (first : Bool) (line : FieldLine)
deriving Repr

/-- How files are joined. -/
structure JoinForm where
  /-- The mark between fields; without one, blanks are. -/
  mark : Option Char
  /-- The numbers of the fields that are compared. -/
  places : Nat × Nat
  folded : Bool
  checked : Bool

namespace JoinForm

/-- The fields of a line. -/
def fieldsOf (f : JoinForm) (line : String) : List String :=
  match f.mark with
  | some mark => line.splitOn (String.singleton mark)
  | none => (line.splitToList fun c => c = ' ' || c = '\t').filter fun field => !field.isEmpty

/-- The lines of a file. -/
def linesOf (f : JoinForm) (text : String) : List FieldLine :=
  (Shell.linesOf text).mapIdx fun i line => ⟨i + 1, line, f.fieldsOf line⟩

/-- The field of a line that is compared. -/
def key (f : JoinForm) (place : Nat) (line : FieldLine) : String :=
  let text := (line.fields[place - 1]?).getD ""
  if f.folded then text.toLower else text

/-- What is known of the order of the lines: whether one without a partner has been seen, and of
which files a line has been reported. -/
structure Watch where
  alone : Bool
  told : Bool × Bool

/-- Looks at the order of the next line of a file. -/
def look (f : JoinForm) (first : Bool) (before : FieldLine) (rest : List FieldLine) (w : Watch) :
    List JoinEvent × Watch :=
  let told := if first then w.told.1 else w.told.2
  let place := if first then f.places.1 else f.places.2
  match rest with
  | next :: _ =>
    if f.checked && w.alone && !told && f.key place next < f.key place before then
      ([.disorder first next],
        { w with told := if first then (true, w.told.2) else (w.told.1, true) })
    else ([], w)
  | [] => ([], w)

/-- Looks at the order of lines one after another. -/
def lookAll (f : JoinForm) (first : Bool) (w : Watch) : List FieldLine → List JoinEvent × Watch
  | [] => ([], w)
  | line :: rest =>
    let (events, w) := f.look first line rest w
    let (more, w) := f.lookAll first w rest
    (events ++ more, w)

/-- The lines of one file that are left when the other one has ended. -/
def alone (f : JoinForm) (first : Bool) (w : Watch) : List FieldLine → List JoinEvent
  | [] => []
  | line :: rest =>
    let (events, w) := f.look first line rest w
    (if first then JoinEvent.left line else .right line) :: events ++ f.alone first w rest

/-- Goes through two files side by side. -/
def run (f : JoinForm) : Nat → Watch → List FieldLine → List FieldLine → List JoinEvent
  | 0, _, _, _ => []
  | _, w, lefts, [] => f.alone true w lefts
  | _, w, [], rights => f.alone false w rights
  | fuel + 1, w, a :: lefts, b :: rights =>
    let one := f.key f.places.1 a
    let other := f.key f.places.2 b
    if one < other then
      let w := { w with alone := true }
      let (events, w) := f.look true a lefts w
      .left a :: events ++ f.run fuel { w with alone := true } lefts (b :: rights)
    else if other < one then
      let w := { w with alone := true }
      let (events, w) := f.look false b rights w
      .right b :: events ++ f.run fuel w (a :: lefts) rights
    else
      let sames := a :: lefts.takeWhile fun line => f.key f.places.1 line = one
      let others := b :: rights.takeWhile fun line => f.key f.places.2 line = one
      let lefts := (a :: lefts).drop sames.length
      let rights := (b :: rights).drop others.length
      let (events, w) := f.lookAll true w (sames ++ lefts.take 1)
      let (more, w) := f.lookAll false w (others ++ rights.take 1)
      let pairs := sames.flatMap fun a => others.map fun b => JoinEvent.both a b
      let w := { w with alone := w.alone || (lefts.isEmpty != rights.isEmpty) }
      events ++ more ++ pairs ++ f.run fuel w lefts rights

end JoinForm

/-- Reads a list of the fields to be written, each of them as the number of a file and of a field;
the common field is `0`. -/
def readJoinList (text : String) : Except String (List (Nat × Nat)) :=
  let parts := ((text.splitOn ",").flatMap fun part => part.splitOn " ").filter fun part =>
    !part.isEmpty
  parts.mapM fun part =>
    match part.splitOn "." with
    | ["0"] => .ok (0, 0)
    | ["1", field] | ["2", field] =>
      match field.toNat? with
      | some (n + 1) => .ok (if part.startsWith "1" then 1 else 2, n + 1)
      | _ => .error ("invalid field number: '" ++ field ++ "'")
    | _ =>
      if part.toList.head?.any ['0', '1', '2'].contains then
        .error ("invalid field specifier: '" ++ part ++ "'")
      else .error ("invalid file number in field spec: '" ++ part ++ "'")

/-- Writes a line for each two lines with the same field. -/
def join : Builtin :=
  withTable
    { flags := "icNH", valued := "aevotj12", mixed := true, badStatus := 1
      long := [("ignore-case", 'i'), ("check-order", 'c'), ("nocheck-order", 'N'),
        ("header", 'H')] }
    fun o m =>
      let place (letter : Char) : Except String Nat :=
        match (o.given.reverse.find? fun entry => entry.1 = letter || entry.1 = 'j').map Prod.snd
        with
        | none => .ok 1
        | some text => match text.toNat? with
          | some (n + 1) => .ok (n + 1)
          | _ => .error ("invalid field number: '" ++ text ++ "'")
      match o.operands with
      | [] => m.misuse "missing operand"
      | [one] => m.misuse ("missing operand after '" ++ one ++ "'")
      | _ :: _ :: extra :: _ => m.misuse ("extra operand '" ++ extra ++ "'")
      | [one, other] =>
        match place '1', place '2', readJoinList (",".intercalate (o.values 'o')) with
        | .error text, _, _ | _, .error text, _ | _, _, .error text => m.report text 1
        | .ok first, .ok second, .ok wanted =>
          match m.openInput one with
          | .error e => m.report (aboutFile one e) 1
          | .ok (left, m) =>
          match m.openInput other with
          | .error e => m.report (aboutFile other e) 1
          | .ok (right, m) =>
            let form : JoinForm :=
              { mark := (o.value? 't').bind fun t => t.toList.head?, places := (first, second)
                folded := o.has 'i', checked := !o.has 'N' }
            go o form wanted (one, other) (form.linesOf left) (form.linesOf right) m
where
  /-- The fields of a line other than the one that is compared. -/
  others (place : Nat) (line : FieldLine) : List String := line.fields.eraseIdx (place - 1)
  /-- Writes what comes out of two files. -/
  go (o : Options) (form : JoinForm) (wanted : List (Nat × Nat)) (names : String × String)
      (lefts rights : List FieldLine) (m : Machine) : Flow × Machine :=
    let between := String.singleton (form.mark.getD ' ')
    let blank := (o.value? 'e').getD ""
    let only := o.values 'v'
    let unpaired (file : String) : Bool := (o.values 'a' ++ only).contains file
    let fieldAt (place : Nat) (line : FieldLine) : String :=
      match line.fields[place - 1]? with
      | some "" | none => blank
      | some field => field
    let row (a b : Option FieldLine) : String :=
      let common := match a, b with
        | some a, _ => fieldAt form.places.1 a
        | none, some b => fieldAt form.places.2 b
        | none, none => ""
      let chosen (entry : Nat × Nat) : String :=
        match entry.1 with
        | 0 => common
        | 1 => (a.map (fieldAt entry.2)).getD blank
        | _ => (b.map (fieldAt entry.2)).getD blank
      let fields := if wanted.isEmpty then
          common :: ((a.map (others form.places.1)).getD [] ++
            (b.map (others form.places.2)).getD [])
        else wanted.map chosen
      between.intercalate fields ++ "\n"
    let step (state : Bool × Machine) (event : JoinEvent) : Bool × Machine :=
      let (disordered, m) := state
      if disordered && o.has 'c' then state
      else match event with
      | .both a b => (disordered, if only.isEmpty then m.print 1 (row (some a) (some b)) else m)
      | .left a => (disordered, if unpaired "1" then m.print 1 (row (some a) none) else m)
      | .right b => (disordered, if unpaired "2" then m.print 1 (row none (some b)) else m)
      | .disorder isFirst line =>
        let name := if isFirst then names.1 else names.2
        (true, m.warn (name ++ ":" ++ toString line.number ++ ": is not sorted: " ++ line.text))
    let (disordered, m) := (form.run (lefts.length + rights.length + 1) ⟨o.has 'c', (false, false)⟩
      lefts rights).foldl step (false, m)
    if disordered && o.has 'c' then m.done 1
    else if disordered then m.report "input is not in sorted order" 1 else m.done 0

end SmellRefactor.Shell
