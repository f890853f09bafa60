import SmellRefactor.Shell.Utility.Rules.State

/-!
# Running programs of rules

Terms are evaluated from left to right, and statements are run one after another.  A place is
determined before it is read or changed, so that its parts are evaluated only once.
-/

namespace SmellRefactor.Shell.Rules

open Decimal

/-- What a program of rules runs with: how it starts programs, and its functions. -/
structure Setup where
  start : Starter
  functions : List Function

/-- A place whose parts have been evaluated. -/
inductive Target where
  | named (name : Name)
  | field (number : Nat)
  | element (table : Nat) (key : Key)

/-- The number of rounds of a loop before it counts as endless. -/
def roundLimit : Nat := 1000000

/-- The number of values that functions can put aside. -/
def asideLimit : Nat := 1024

/-- The value of an operation on two numbers. -/
def Operator.compute (operator : Operator) (x y : Binary64) : Binary64 :=
  match operator with
  | .add => x.add y
  | .subtract => x.subtract y
  | .multiply => x.multiply y
  | .divide => x.divide y
  | .remainder => x.remainder y
  | .power => x.throughBoth Float.pow y

/-- The part of a text from a place on. -/
def part (text : String) (start : Value) (length? : Option Value) : String :=
  let chars := text.toList
  let first := start.toWhole
  let length : Int := match length? with
    | some length => length.toWhole
    | none => chars.length
  let length := if first < 1 && length?.isSome then length - first else length
  String.ofList ((chars.drop (first - 1).toNat).take length.toNat)

/-- The place of a text in another one, counted from one, or zero. -/
def indexIn (wanted : List Char) : Nat → List Char → Nat
  | place, text =>
    if wanted.isPrefixOf text then place
    else match text with
    | [] => 0
    | _ :: rest => indexIn wanted (place + 1) rest

/-- The next number that looks as if it was random. -/
def nextSeed (seed : Nat) : Nat := (seed * 1103515245 + 12345) % twoTo 31

namespace Act

/-- The value at a target. -/
def load (target : Target) : Act Value := do
  match target with
  | .named name =>
    return match ← cell name with
      | .value v => v
      | _ => .unset
  | .field n => field n
  | .element number key =>
    changeTable number fun t => t.use key true
    return (← table number).get key

/-- Changes the value at a target. -/
def store (target : Target) (v : Value) : Act Unit := do
  match target with
  | .named name => assign name v
  | .field n => setField n v
  | .element number key => changeTable number fun t => t.put key v

/-- The text of values laid out by a format; a function or a statement of a name has asked for it. -/
def laidOut (values : List Value) : Act (String × Option LayoutProblem × String) := do
  let format ← text (values.head?.getD .unset)
  let convert := (← get).conversion
  let (result, problem) := Value.layOutAll (Value.toText convert) format values.tail
  return (result, problem, format)

/-- Ends the program if values could not be laid out. -/
def checkLayout (name format : String) (problem : Option LayoutProblem) : Act Unit := do
  let call := name ++ "(\"" ++ format ++ "\")"
  match problem with
  | none => return ()
  | some .tooFew => failRunning ("not enough arguments passed to " ++ call)
  | some (.improper n) =>
    failRunning ("improper conversion(number " ++ toString n ++ ") in " ++ call)

/-- The value of a function that every program has. -/
def applyTo (setup : Setup) (operation : Operation) (args : List Value) : Act Value := do
  let first := args.head?.getD Value.unset
  let number (f : Binary64 → Binary64) : Act Value := return .number (f first.toNumber)
  match operation with
  | .length =>
    let s ← if args.isEmpty then pure (← get).record else text first
    return .ofNat s.length
  | .part => return .text (part (← text first) (args[1]?.getD Value.unset) args[2]?)
  | .index =>
    return .ofNat (indexIn (← text (args[1]?.getD Value.unset)).toList 1 (← text first).toList)
  | .layout =>
    let (result, problem, format) ← laidOut args
    checkLayout "sprintf" format problem
    return .text result
  | .lower => return .text ((← text first).map Char.toLower)
  | .upper => return .text ((← text first).map Char.toUpper)
  | .whole => number Binary64.truncated
  | .root => number (Binary64.through Float.sqrt)
  | .exponential => number (Binary64.through Float.exp)
  | .logarithm => number (Binary64.through Float.log)
  | .sine => number (Binary64.through Float.sin)
  | .cosine => number (Binary64.through Float.cos)
  | .angle => number fun x => x.throughBoth Float.atan2 (args[1]?.getD Value.unset).toNumber
  | .random =>
    modify fun s => { s with seed := nextSeed s.seed }
    return .number (.ofScaled ((← get).seed : Int) (-31))
  | .seed =>
    let seed := (← get).seed
    modify fun s => { s with seed := first.toWhole.natAbs }
    return .ofNat seed
  | .time => return .ofNat ((← get).machine.clock / 1000)
  | .run =>
    let command ← text first
    flush
    return .ofNat (← runCommand setup.start command none false).1
  | .close => return .number (.ofInt (← close setup.start (← text first)))
  | .flush =>
    flush
    return .ofBool false

/-- Gives the next record to a target, or makes it the record itself. -/
def receive (target : Option Target) (record : String) : Act Unit := do
  match target with
  | none => setRecord record
  | some target => store target (.input record)

/-- Receives a record of an input that has a name.  The value tells whether there was one. -/
def receiveFrom (target : Option Target) (record : Option (Option String)) : Act Value := do
  match record with
  | none => return .number (.ofInt (-1))
  | some none => return .ofBool false
  | some (some record) =>
    receive target record
    return .ofBool true

/-- Runs the body of a function in which its variables hold something. -/
def within (own : Array Cell) (body : Act Unit) : Act Value := do
  let before := (← get).own
  let aside := (← get).aside
  if asideLimit < aside + own.size then
    throw (.failed ("program limit exceeded: eval stack size=" ++ toString asideLimit))
  modify fun s => { s with own := own, aside := aside + own.size + 1 }
  let result ← attempt body
  modify fun s => { s with own := before, aside := aside }
  match result with
  | .ok () => return .unset
  | .error (.give v) => return v
  | .error other => throw other

mutual

/-- Evaluates a term. -/
def eval (setup : Setup) : Nat → Term → Act Value
  | 0, _ => throw (.killed 0)
  | fuel + 1, t => do
    match t with
    | .number x => return .number x
    | .text s => return .text s
    | .pattern e =>
      return .ofBool (e.isIn ⟨(← get).record.toList.toArray, false, false⟩)
    | .grouped t => eval setup fuel t
    | .place p => load (← target setup fuel p)
    | .assign p none t =>
      let target ← target setup fuel p
      let v ← eval setup fuel t
      store target v
      return v
    | .assign p (some operator) t =>
      let target ← target setup fuel p
      let y ← eval setup fuel t
      let v := .number (operator.compute (← load target).toNumber y.toNumber)
      store target v
      return v
    | .count p up first =>
      let target ← target setup fuel p
      let before := (← load target).toNumber
      let after := before.add (.ofInt (if up then 1 else -1))
      store target (.number after)
      return .number (if first then after else before)
    | .negate t => return .number (← eval setup fuel t).toNumber.negated
    | .toNumber t => return .number (← eval setup fuel t).toNumber
    | .deny t => return .ofBool (!(← eval setup fuel t).isTrue)
    | .compute operator a b =>
      let x ← eval setup fuel a
      let y ← eval setup fuel b
      return .number (operator.compute x.toNumber y.toNumber)
    | .compare comparison a b =>
      let x ← eval setup fuel a
      let y ← eval setup fuel b
      let format := (← get).conversion
      return .ofBool (comparison.holds (x.order format y))
    | .join a b =>
      let x ← text (← eval setup fuel a)
      let y ← text (← eval setup fuel b)
      return .text (x ++ y)
    | .fits negated a b =>
      let s ← text (← eval setup fuel a)
      let e ← pattern setup fuel b
      return .ofBool (e.isIn ⟨s.toList.toArray, false, false⟩ != negated)
    | .both a b =>
      if (← eval setup fuel a).isTrue then return .ofBool (← eval setup fuel b).isTrue
      else return .ofBool false
    | .either a b =>
      if (← eval setup fuel a).isTrue then return .ofBool true
      else return .ofBool (← eval setup fuel b).isTrue
    | .choose condition yes no =>
      if (← eval setup fuel condition).isTrue then eval setup fuel yes else eval setup fuel no
    | .member keys name =>
      let key ← key setup fuel keys
      let number ← tableOf name
      changeTable number fun t => t.use key false
      return .ofBool ((← table number).has key)
    | .call function args =>
      match setup.functions.find? fun f => f.name = function with
      | none => return .unset
      | some f =>
        let own ← arguments setup fuel args
        let own := own ++ List.replicate (f.parameters - own.length) (.unset none)
        within own.toArray (exec setup fuel f.body)
    | .apply .length [.place (.named name)] =>
      match ← cell name with
      | .table number => return .ofNat (← table number).size
      | .value v => return .ofNat (← text v).length
      | .unset _ => return .ofBool false
    | .apply operation args => applyTo setup operation (← values setup fuel args)
    | .find t p =>
      let s ← text (← eval setup fuel t)
      let e ← pattern setup fuel p
      let (start, length) : Nat × Int :=
        match e.find? ⟨s.toList.toArray, false, false⟩ 0 with
        | some (start, state) => (start + 1, (state.position - start : Nat))
        | none => (0, -1)
      setCell (.shared "RSTART") (.value (.ofNat start))
      setCell (.shared "RLENGTH") (.value (.number (.ofInt length)))
      return .ofNat start
    | .divide t name separator =>
      let s ← text (← eval setup fuel t)
      let separator ← match separator with
        | none => pure (← get).fieldSeparator
        | some (.pattern e) => pure (.expression e)
        | some t => separatorOf (← eval setup fuel t)
      let parts := separator.parts s.toList
      let number ← tableOf name
      changeTable number fun _ => .ofList parts
      return .ofNat parts.length
    | .replace all p t place =>
      let e ← pattern setup fuel p
      let replacement ← text (← eval setup fuel t)
      let target ← match place with
        | some p => target setup fuel p
        | none => pure (.field 0)
      let (result, count) := replaceIn all e replacement (← text (← load target))
      if 0 < count then store target (.text result)
      return .ofNat count
    | .next place =>
      let target ← target? setup fuel place
      match ← nextMain argumentLimit with
      | none => return .ofBool false
      | some record =>
        receive target record
        return .ofBool true
    | .nextOf path place =>
      let name ← text (← eval setup fuel path)
      let target ← target? setup fuel place
      receiveFrom target (← nextFrom name false (openFile name))
    | .nextFrom command place =>
      let name ← text (← eval setup fuel command)
      let target ← target? setup fuel place
      receiveFrom target (← nextFrom name true (openCommand setup.start name))

/-- Evaluates the parts of a place. -/
def target (setup : Setup) : Nat → Place → Act Target
  | 0, _ => throw (.killed 0)
  | fuel + 1, p => do
    match p with
    | .named name => return .named name
    | .field n => return .field (← fieldNumber (← eval setup fuel n))
    | .element name keys =>
      let key ← key setup fuel keys
      return .element (← tableOf name) key

/-- Evaluates the parts of a place, if there is one. -/
def target? (setup : Setup) : Nat → Option Place → Act (Option Target)
  | 0, _ => throw (.killed 0)
  | fuel + 1, place => do
    match place with
    | none => return none
    | some p => return some (← target setup fuel p)

/-- Evaluates terms one after another. -/
def values (setup : Setup) : Nat → List Term → Act (List Value)
  | 0, _ => throw (.killed 0)
  | _, [] => return []
  | fuel + 1, t :: rest => do
    let v ← eval setup fuel t
    return v :: (← values setup fuel rest)

/-- The key that some terms are together. -/
def key (setup : Setup) : Nat → List Term → Act Key
  | 0, _ => throw (.killed 0)
  | fuel + 1, keys => do keyOf (← values setup fuel keys)

/-- The expression that a term stands for. -/
def pattern (setup : Setup) : Nat → Term → Act Expression
  | 0, _ => throw (.killed 0)
  | fuel + 1, t => do
    match t with
    | .pattern e => return e
    | t =>
      let s ← text (← eval setup fuel t)
      match Expression.ofString .ofRules s.toList with
      | .ok e => return e
      | .error problem => failRunning (patternComplaint problem s)

/-- What the variables of a function hold that is called with some arguments.  A table is not
copied, and a variable that holds nothing may still become a table in the function. -/
def arguments (setup : Setup) : Nat → List Term → Act (List Cell)
  | 0, _ => throw (.killed 0)
  | _, [] => return []
  | fuel + 1, t :: rest => do
    let first ← match t with
      | .place (.named name) =>
        match ← cell name with
        | .unset none =>
          let number ← newTable
          setCell name (.unset (some number))
          pure (Cell.unset (some number))
        | other => pure other
      | t => do pure (Cell.value (← eval setup fuel t))
    return first :: (← arguments setup fuel rest)

/-- Runs a statement. -/
def exec (setup : Setup) : Nat → Statement → Act Unit
  | 0, _ => throw (.killed 0)
  | fuel + 1, statement => do
    match statement with
    | .nothing => return ()
    | .term t =>
      let _ ← eval setup fuel t
    | .print items target =>
      let values ← values setup fuel items
      let s ← get
      let format := (s.valueOf "OFMT").toText ""
      let texts := if items.isEmpty then [s.record] else values.map (Value.toText format)
      let separator ← text (s.valueOf "OFS")
      let stop ← text (s.valueOf "ORS")
      emit (← outlet setup fuel target) (separator.intercalate texts ++ stop)
    | .printLaidOut items target =>
      let values ← values setup fuel items
      let target ← outlet setup fuel target
      let (result, problem, format) ← laidOut values
      emit target result
      checkLayout "printf" format problem
    | .block body => execAll setup fuel body
    | .branch condition yes no =>
      if (← eval setup fuel condition).isTrue then exec setup fuel yes else exec setup fuel no
    | .loop asked condition step body =>
      let holds : Act Bool := match condition with
        | none => return true
        | some t => return (← eval setup fuel t).isTrue
      if asked && !(← holds) then return ()
      repeatWhile roundLimit do
        if ← round (exec setup fuel body) then
          exec setup fuel step
          holds
        else return false
    | .each name from_ body =>
      let number ← tableOf from_
      changeTable number Table.withTexts
      let keys := (← table number).keys
      eachOf setup fuel name keys body
    | .leave => throw .leave
    | .again => throw .again
    | .nextRecord => throw .nextRecord
    | .nextFile => throw .nextFile
    | .quit status =>
      match status with
      | none => throw .quit
      | some t =>
        let v ← eval setup fuel t
        modify fun s => { s with status := (v.toWhole % 256).toNat }
        throw .quit
    | .give none => throw (.give .unset)
    | .give (some t) => throw (.give (← eval setup fuel t))
    | .erase name none =>
      let number ← tableOf name
      changeTable number fun _ => .empty
    | .erase name (some keys) =>
      let key ← key setup fuel keys
      let number ← tableOf name
      changeTable number fun t => t.erase key

/-- Runs statements one after another. -/
def execAll (setup : Setup) : Nat → List Statement → Act Unit
  | 0, _ => throw (.killed 0)
  | _, [] => return ()
  | fuel + 1, first :: rest => do
    exec setup fuel first
    execAll setup fuel rest

/-- Runs a statement for each of some keys. -/
def eachOf (setup : Setup) : Nat → Name → List String → Statement → Act Unit
  | 0, _, _, _ => throw (.killed 0)
  | _, _, [], _ => return ()
  | fuel + 1, name, first :: rest, body => do
    assign name (.text first)
    if ← round (exec setup fuel body) then eachOf setup fuel name rest body

/-- Evaluates where something is printed to. -/
def outlet (setup : Setup) : Nat → Option (Sink × Term) → Act (Option (Sink × String))
  | 0, _ => throw (.killed 0)
  | fuel + 1, target => do
    match target with
    | none => return none
    | some (sink, t) => return some (sink, ← text (← eval setup fuel t))

end

/-! ## Rules -/

/-- The depth to which the parts of a program can be evaluated. -/
def depthLimit : Nat := 200000

/-- Whether a rule is for the record. -/
def selects (setup : Setup) (number : Nat) (guard : Guard) : Act Bool := do
  let holds (t : Term) : Act Bool := return (← eval setup depthLimit t).isTrue
  match guard with
  | .first | .last => return false
  | .always => return true
  | .condition t => holds t
  | .range start stop =>
    let begun := (← get).begun.contains number
    if begun || (← holds start) then
      let ended ← holds stop
      modify fun s => { s with
        begun := if ended then s.begun.filter (· ≠ number)
          else if begun then s.begun else number :: s.begun }
      return true
    else return false

/-- Runs the rules for the record. -/
def runRules (setup : Setup) : List (Rule × Nat) → Act Unit
  | [] => return ()
  | (rule, number) :: rest => do
    if ← selects setup number rule.guard then exec setup depthLimit rule.body
    runRules setup rest

/-- Runs the rules for all records.  The result is whether there are more records. -/
def runRound (setup : Setup) (rules : List (Rule × Nat)) : Act Bool := do
  match ← nextMain argumentLimit with
  | none => return false
  | some record =>
    setRecord record
    match ← attempt (runRules setup rules) with
    | .ok () | .error .nextRecord => return true
    | .error .nextFile =>
      modify fun s => { s with main := none }
      return true
    | .error other => throw other

/-- Does something that may end the program, which goes on at another place then. -/
def untilQuit (act : Act Unit) : Act Unit := do
  match ← attempt act with
  | .ok () | .error .quit => return ()
  | .error other => throw other

/-- Runs a program: what comes before all records, what is done for each record, and what comes
behind all records.  At its end all outputs are closed. -/
def run (setup : Setup) (p : Program) : Act Unit := do
  let isFirst (r : Rule) : Bool := match r.guard with
    | .first => true
    | _ => false
  let isLast (r : Rule) : Bool := match r.guard with
    | .last => true
    | _ => false
  let first := p.rules.filter isFirst
  let last := p.rules.filter isLast
  let rules := p.rules.filter fun r => !(isFirst r || isLast r)
  let bodies (rules : List Rule) : Act Unit :=
    execAll setup depthLimit (rules.map Rule.body)
  untilQuit do
    bodies first
    if !(rules.isEmpty && last.isEmpty) then repeatWhile roundLimit (runRound setup rules.zipIdx)
  untilQuit (bodies last)
  let outlets := (← get).outlets
  modify fun s => { s with outlets := [] }
  for outlet in outlets do
    let _ ← endOutlet setup.start outlet
  flush

end Act

end SmellRefactor.Shell.Rules
