import SmellRefactor.Shell.Utility.Editor.Script
import SmellRefactor.Shell.Utility.Files

/-!
# The stream editor

For each line of its files the editor goes through the steps of its script and prints what has
become of the line.  What it prints is kept back to the end, so that complaints come first.
-/

namespace SmellRefactor.Shell

/-! ## The state -/

/-- What is printed behind a line. -/
inductive EditAddition where
  | text (text : String)
  | file (path : String)
  | line (text : String)
deriving Repr

/-- How an editor works. -/
structure EditSetup where
  steps : Array EditStep
  /-- Lines are printed only where the script says so. -/
  quiet : Bool
  /-- The width of lines that are shown with all their characters. -/
  width : Nat
  /-- What stands at the ends of lines. -/
  stop : Char

/-- The state of an editor. -/
structure EditState where
  machine : Machine
  /-- What has been printed, the last text first. -/
  printed : List String
  /-- Whether what has been printed last lacks the end of its line. -/
  unfinished : Bool
  /-- The files that have not been opened yet. -/
  paths : List String
  path : String
  /-- The lines of the open file that have not been read, and whether they have an end. -/
  lines : List (String × Bool)
  number : Nat
  space : String
  ended : Bool
  hold : String
  additions : List EditAddition
  replaced : Bool
  /-- The places of the ranges that have begun, and the numbers of the lines where they end. -/
  ranges : List (Nat × Option Nat)
  used : Option EditPattern
  /-- The files of which single lines are taken, with what is left of them. -/
  sources : List (String × List String)
  /-- Whether a file could not be read. -/
  missing : Bool
  /-- The status with which the editor has broken off. -/
  broken : Option Nat

/-- What follows the steps for a line. -/
inductive EditOutcome where
  | finished
  | deleted
  /-- The steps are gone through once more with what is left of the line. -/
  | again
  | quit (status : Nat)
  | endless

namespace EditState

/-- Prints a text as it is, on a line of its own. -/
def emit (s : EditState) (text : String) : EditState :=
  { s with
    printed := text :: (if s.unfinished then "\n" :: s.printed else s.printed)
    unfinished := false }

/-- Prints a line, which may lack its end. -/
def emitLine (s : EditState) (stop : Char) (text : String) (ended : Bool) : EditState :=
  { s.emit (if ended then text ++ stop.toString else text) with unfinished := !ended }

/-- Opens files until there is a line to read. -/
def refill (stop : Char) : Nat → EditState → EditState
  | 0, s => s
  | fuel + 1, s =>
    if !s.lines.isEmpty || s.broken.isSome then s
    else match s.paths with
    | [] => s
    | path :: paths =>
      let s := { s with paths := paths, path := path }
      match s.machine.openInput path with
      | .ok (text, m) =>
        let parts := text.splitOn stop.toString
        let lines := if parts.getLast? = some "" then parts.dropLast.map fun part => (part, true)
          else parts.mapIdx fun i part => (part, i + 1 < parts.length)
        refill stop fuel { s with machine := m, lines := lines }
      | .error .isDirectory =>
        { s with
          broken := some 4
          machine := s.machine.warn ("read error on " ++ path ++ ": Is a directory") }
      | .error e =>
        refill stop fuel { s with
          missing := true
          machine := s.machine.warn ("can't read " ++ path ++ ": " ++ plainMessage e) }

/-- Opens files until there is a line to read, if there is one. -/
def ready (s : EditState) (stop : Char) : EditState := s.refill stop (s.paths.length + 1)

/-- Prints what has been put behind the line. -/
def flush (s : EditState) (stop : Char) : EditState :=
  let s' := s.additions.foldl
    (fun s addition => match addition with
      | .text text => s.emit text
      | .line text => s.emitLine stop text true
      | .file path =>
        match s.machine.openInput path with
        | .ok (text, m) => if text.isEmpty then s else { s with machine := m }.emit text
        | .error _ => s) s
  { s' with additions := [] }

/-- Reads the next line, behind what is there or in its place. -/
def take (s : EditState) (stop : Char) (more : Bool) : EditState :=
  match s.lines with
  | [] => s
  | (text, ended) :: lines =>
    { s with
      lines := lines
      space := if more then s.space ++ stop.toString ++ text else text
      ended := ended
      number := s.number + 1
      replaced := false }

/-- Writes a line to a file.  The outputs of the editor can be named as files. -/
def writeTo (s : EditState) (path text : String) : EditState :=
  if path = "/dev/stdout" then s.emitLine '\n' text s.ended
  else
    let bytes := bytesOfText (if s.ended then text ++ "\n" else text)
    match s.machine.openOutput path true with
    | .ok (channel, m) => { s with machine := m.deliver channel bytes }
    | .error _ => s

/-- The text with which an expression is compared. -/
def subject (s : EditState) (p : EditPattern) : Subject :=
  ⟨s.space.toList.toArray, p.folded, p.multiline⟩

/-- The pattern that is meant, which is the last one that was used if none is given. -/
def meant (s : EditState) (p : EditPattern) : EditPattern × EditState :=
  match p.expression with
  | some _ => (p, { s with used := some p })
  | none => (s.used.getD p, s)

/-! ## Choices -/

/-- Whether the line is one of those that an address chooses. -/
def isChosen (s : EditState) (stop : Char) : EditAddress → Bool × EditState
  | .line n => (s.number = n, s)
  | .last =>
    let s := s.ready stop
    (s.lines.isEmpty, s)
  | .every first step =>
    (if step = 0 then s.number = first
      else first ≤ s.number && (s.number - first) % step = 0, s)
  | .fits pattern =>
    let (p, s) := s.meant pattern
    ((p.expression.map fun e => e.isIn (s.subject p)).getD false, s)

/-- The state in which the range of a step has begun or ended. -/
def withRange (s : EditState) (place : Nat) (range : Option (Option Nat)) : EditState :=
  let others := s.ranges.filter (·.1 ≠ place)
  { s with ranges := match range with
      | some stop => (place, stop) :: others
      | none => others }

/-- Begins the range of a step at a line, unless it ends there, too. -/
def begin (s : EditState) (place : Nat) (stop : EditEnd) : EditState :=
  match stop with
  | .at (.line n) => if n ≤ s.number then s else s.withRange place (some (some n))
  | .behind count =>
    if count = 0 then s else s.withRange place (some (some (s.number + count)))
  | .multiple factor =>
    if factor = 0 then s
    else s.withRange place (some (some ((s.number / factor + 1) * factor)))
  | .at _ => s.withRange place (some none)

/-- Whether a step is done for the line. -/
def selects (s : EditState) (stop : Char) (place : Nat) (choice : EditChoice) :
    Bool × EditState :=
  let (chosen, s) : Bool × EditState :=
    match choice.first, choice.stop with
    | none, _ => (true, s)
    | some first, none => s.isChosen stop first
    | some first, some last =>
      match s.ranges.lookup place, last with
      | some (some n), _ => (s.number ≤ n, if n ≤ s.number then s.withRange place none else s)
      | some none, .at address =>
        let (atEnd, s) := s.isChosen stop address
        (true, if atEnd then s.withRange place none else s)
      | some none, _ => (true, s.withRange place none)
      | none, last =>
        let (chosen, s) := s.isChosen stop first
        (chosen, if chosen then s.begin place last else s)
  (chosen != choice.negated, s)

end EditState

/-! ## Replacements -/

/-- The letters of what is put in, in the case that is asked for. -/
structure CaseState where
  lasting : Option Bool
  /-- What is asked for the next letter alone. -/
  once : Option Bool

namespace CaseState

/-- A letter in upper or lower case, if one of them is asked for. -/
def apply (upper : Option Bool) (c : Char) : Char :=
  match upper with
  | some true => c.toUpper
  | some false => c.toLower
  | none => c

/-- A text in the case that is asked for. -/
def convert (state : CaseState) : List Char → List Char × CaseState
  | [] => ([], state)
  | c :: rest =>
    (apply (state.once.or state.lasting) c :: rest.map (apply state.lasting),
      { state with once := none })

end CaseState

/-- What is put in for a match. -/
def replacementText (s : Subject) (start : Nat) (found : MatchState) (parts : List ReplacementPart) :
    List Char :=
  let step (state : List Char × CaseState) (part : ReplacementPart) : List Char × CaseState :=
    let (text, case_) := state
    let add (chars : List Char) : List Char × CaseState :=
      let (chars, case_) := case_.convert chars
      (text ++ chars, case_)
    match part with
    | .text chars => add chars
    | .group 0 => add (s.slice start found.position)
    | .group n => add (match found.groups.lookup n with
      | some (first, last) => s.slice first last
      | none => [])
    | .change .upper => (text, { case_ with lasting := some true })
    | .change .lower => (text, { case_ with lasting := some false })
    | .change .ended => (text, ⟨none, none⟩)
    | .change .nextUpper => (text, { case_ with once := some true })
    | .change .nextLower => (text, { case_ with once := some false })
  (parts.foldl step ([], ⟨none, none⟩)).1

/-- Goes through the matches behind a place.  `count` is the number of matches before it, and
`previous` the end of the last one, where no empty match counts. -/
def replaceFrom (e : Expression) (s : Subject) (sub : Substitution) :
    Nat → Nat → Nat → Option Nat → List (List Char) → Option (List (List Char))
  | 0, _, _, _, _ => none
  | fuel + 1, place, count, previous, done =>
    let rest (place : Nat) (done : List (List Char)) : List (List Char) :=
      s.slice place s.text.size :: done
    let found := if s.text.size < place then none else e.find? s place
    match found with
    | none => if sub.first ≤ count then some (rest place done) else none
    | some (start, state) =>
      let stop := state.position
      if start = stop && previous = some start then
        if s.text.size ≤ start then if sub.first ≤ count then some (rest place done) else none
        else replaceFrom e s sub fuel (start + 1) count none (s.slice place (start + 1) :: done)
      else
        let count := count + 1
        let skipped := s.slice place start
        let done := if count < sub.first then s.slice place stop :: done
          else replacementText s start state sub.parts :: skipped :: done
        if sub.first ≤ count && !sub.all then some (rest stop done)
        else if start = stop then
          replaceFrom e s sub fuel (stop + 1) count none (s.slice stop (stop + 1) :: done)
        else replaceFrom e s sub fuel stop count (some stop) done

/-- The text after a replacement, if something has been replaced. -/
def replaceIn (e : Expression) (s : Subject) (sub : Substitution) : Option String :=
  (replaceFrom e s sub (2 * s.text.size + 3) 0 0 none []).map fun done =>
    String.ofList done.reverse.flatten

/-! ## Showing all characters -/

/-- A character as it is shown where nothing may be hidden. -/
def shownChar (c : Char) : List Char :=
  match c with
  | '\\' => ['\\', '\\']
  | '\x07' => ['\\', 'a']
  | '\x08' => ['\\', 'b']
  | '\x0c' => ['\\', 'f']
  | '\n' => ['\\', 'n']
  | '\r' => ['\\', 'r']
  | '\t' => ['\\', 't']
  | '\x0b' => ['\\', 'v']
  | c =>
    if ' ' ≤ c && c ≤ '~' then [c]
    else
      let digits := Nat.toDigits 8 c.toNat
      '\\' :: List.replicate (3 - digits.length) '0' ++ digits

/-- A text with all its characters, in lines of some width; zero stands for no limit. -/
def shownText (width : Nat) (text : List Char) : String :=
  let step (state : List Char × Nat) (c : Char) : List Char × Nat :=
    let shown := shownChar c
    if width ≠ 0 && width - 1 < state.2 + shown.length then
      (state.1 ++ ['\\', '\n'] ++ shown, shown.length)
    else (state.1 ++ shown, state.2 + shown.length)
  String.ofList ((text.foldl step ([], 0)).1 ++ ['$', '\n'])

/-! ## Going through the steps -/

/-- The place behind a label, or behind all steps. -/
def placeOfLabel (steps : Array EditStep) (name : String) : Option Nat :=
  if name.isEmpty then some steps.size
  else steps.findIdx? fun step => match step.command with
    | .label found => found = name
    | _ => false

/-- Prints the line, unless the editor is quiet. -/
def EditSetup.autoprint (setup : EditSetup) (s : EditState) : EditState :=
  if setup.quiet then s else s.emitLine setup.stop s.space s.ended

/-- Runs a program, whose output stands between what has been printed and what will be. -/
def runBetween (start : Starter) (command : String) (s : EditState) : EditState :=
  let m := s.machine.print 1 (String.join s.printed.reverse)
  let m := match start "sh" ["-c", command] m with
    | .ok (_, m) => m
    | .error _ => m
  { s with machine := m, printed := [] }

/-- Runs the line as a program, whose output takes the place of the line. -/
def runInstead (start : Starter) (s : EditState) : EditState :=
  match start "sh" ["-c", s.space] s.machine.collecting with
  | .ok (_, m) =>
    let (text, m) := m.takeCollected
    { s with
      machine := { m with channels := s.machine.channels }
      space := if text.endsWith "\n" then (text.dropEnd 1).toString else text }
  | .error _ => s

/-- Replaces matches in the line. -/
def substituteLine (start : Starter) (setup : EditSetup) (sub : Substitution) (s : EditState) :
    EditState :=
  let (p, s) := s.meant sub.pattern
  match p.expression.bind fun e => replaceIn e (s.subject p) sub with
  | none => s
  | some text =>
    let s := { s with space := text, replaced := true }
    let s := if sub.run then runInstead start s else s
    let s := if sub.printed then s.emitLine setup.stop s.space s.ended else s
    match sub.path with
    | some path => s.writeTo path s.space
    | none => s

/-- Does one command.  The outcome, if there is one, is that no more steps follow. -/
def doCommand (start : Starter) (setup : EditSetup) (place : Nat) (choice : EditChoice)
    (command : EditCommand) (s : EditState) : Option EditOutcome × EditState :=
  let stop := setup.stop
  let text := stop.toString
  let go (s : EditState) : Option EditOutcome × EditState := (none, s)
  match command with
  | .block _ | .nothing | .label _ | .branch _ _ => go s
  | .tellNumber => go (s.emit (toString s.number ++ "\n"))
  | .tellName => go (s.emit (s.path ++ "\n"))
  | .append text => go { s with additions := s.additions ++ [.text text] }
  | .insert text => go (s.emit text)
  | .change text =>
    let within := choice.stop.isSome && !choice.negated && (s.ranges.lookup place).isSome
    (some .deleted, if within then s else s.emit text)
  | .delete => (some .deleted, s)
  | .deleteLine =>
    if s.space.contains stop then
      (some .again, { s with
        space := String.ofList ((s.space.toList.dropWhile (· ≠ stop)).drop 1) })
    else (some .deleted, s)
  | .takeHold => go { s with space := s.hold }
  | .appendHold => go { s with space := s.space ++ text ++ s.hold }
  | .keep => go { s with hold := s.space }
  | .keepMore => go { s with hold := s.hold ++ text ++ s.space }
  | .exchange => go { s with space := s.hold, hold := s.space }
  | .list width => go (s.emit (shownText (width.getD setup.width) s.space.toList))
  | .next =>
    let s := s.ready stop
    if s.lines.isEmpty then (some .finished, s)
    else go (((setup.autoprint s).flush stop).take stop false)
  | .nextMore =>
    let s := s.ready stop
    if s.lines.isEmpty then (some .finished, s) else go ((s.flush stop).take stop true)
  | .print => go (s.emitLine stop s.space s.ended)
  | .printLine =>
    let first := String.ofList (s.space.toList.takeWhile (· ≠ stop))
    go (s.emitLine stop first true)
  | .quit status silently =>
    let s := if silently then s else (setup.autoprint s).flush stop
    (some (.quit status), s)
  | .readFile path => go { s with additions := s.additions ++ [.file path] }
  | .readLine path =>
    let lines := match s.sources.lookup path with
      | some lines => lines
      | none => match s.machine.openInput path with
        | .ok (text, _) => linesOf text
        | .error _ => []
    let others := s.sources.filter (·.1 ≠ path)
    go { s with
      additions := s.additions ++ lines.head?.toList.map .line
      sources := (path, lines.tail) :: others }
  | .writeFile path => go (s.writeTo path s.space)
  | .writeLine path => go (s.writeTo path (String.ofList (s.space.toList.takeWhile (· ≠ '\n'))))
  | .substitute sub => go (substituteLine start setup sub s)
  | .transliterate pairs =>
    go { s with space := s.space.map fun c => (pairs.lookup c).getD c }
  | .clear => go { s with space := "" }
  | .run command => go (if command.isEmpty then runInstead start s else runBetween start command s)

/-- Goes through the steps from a place on. -/
def runSteps (start : Starter) (setup : EditSetup) : Nat → Nat → EditState →
    EditOutcome × EditState
  | 0, _, s => (.endless, s)
  | fuel + 1, place, s =>
    match setup.steps[place]? with
    | none => (.finished, s)
    | some step =>
      let (chosen, s) := s.selects setup.stop place step.choice
      match chosen, step.command with
      | false, .block stop => runSteps start setup fuel stop s
      | false, _ => runSteps start setup fuel (place + 1) s
      | true, .branch replaced name =>
        let target := (placeOfLabel setup.steps name).getD setup.steps.size
        match replaced with
        | none => runSteps start setup fuel target s
        | some wanted =>
          runSteps start setup fuel (if s.replaced = wanted then target else place + 1)
            { s with replaced := false }
      | true, command =>
        match doCommand start setup place step.choice command s with
        | (none, s) => runSteps start setup fuel (place + 1) s
        | (some outcome, s) => (outcome, s)

/-- The number of steps that are gone through for one line before they count as endless. -/
def editLimit : Nat := 1000000

/-- Works on lines until there are no more.  The result is the status of a command that breaks off,
if there is one, and whether the steps have no end. -/
def editLines (start : Starter) (setup : EditSetup) : Nat → Bool → EditState →
    Option Nat × Bool × EditState
  | 0, _, s => (none, true, s)
  | fuel + 1, again, s =>
    let s := if again then s else s.ready setup.stop
    if s.broken.isSome then (s.broken, false, s)
    else if !again && s.lines.isEmpty then (none, false, s)
    else
      let s := if again then s else s.take setup.stop false
      match runSteps start setup editLimit 0 s with
      | (.finished, s) =>
        editLines start setup fuel false ((setup.autoprint s).flush setup.stop)
      | (.deleted, s) => editLines start setup fuel false (s.flush setup.stop)
      | (.again, s) => editLines start setup fuel true (s.flush setup.stop)
      | (.quit status, s) => (some status, false, s)
      | (.endless, s) => (none, true, s)

/-! ## The program -/

/-- Arguments in which the option of an ending behind it is written as a long option, and an option
with letters behind it as several ones. -/
def withInPlace (args : List String) : List String :=
  match args with
  | [] => []
  | "--" :: rest => "--" :: rest
  | "--in-place" :: rest => "--in-place=" :: withInPlace rest
  | arg :: rest =>
    match arg.toList with
    | '-' :: '-' :: _ => arg :: withInPlace rest
    | '-' :: letters =>
      let before := letters.takeWhile fun c => !(['i', 'e', 'f', 'l'].contains c)
      match letters.drop before.length with
      | 'i' :: ending =>
        (if before.isEmpty then [] else [String.ofList ('-' :: before)]) ++
          ("--in-place=" ++ String.ofList ending) :: withInPlace rest
      | [_] =>
        -- The next argument is the value of this option.
        match rest with
        | value :: rest => arg :: value :: withInPlace rest
        | [] => [arg]
      | _ => arg :: withInPlace rest
    | _ => arg :: withInPlace rest

/-- The options of the editor. -/
def editTable : OptionTable :=
  { flags := "nErszubd", valued := "efli", mixed := true, badStatus := 1
    long := [("quiet", 'n'), ("silent", 'n'), ("regexp-extended", 'E'), ("expression", 'e'),
      ("file", 'f'), ("in-place", 'i'), ("separate", 's'), ("null-data", 'z'),
      ("unbuffered", 'u'), ("line-length", 'l'), ("posix", 'b'), ("debug", 'd'),
      ("sandbox", 'b'), ("follow-symlinks", 'b')] }

/-- A part of a script: where it comes from, and its text. -/
structure EditPart where
  file : Option String
  text : String

/-- The parts of the script; a part that ends with a backslash goes on in the next one. -/
def editParts (parts : List EditPart) : List EditPart :=
  match parts with
  | a :: b :: rest =>
    let marks := (a.text.toList.reverse.takeWhile (· = '\\')).length
    if marks % 2 = 1 && a.file.isNone then editParts (⟨b.file, a.text ++ "\n" ++ b.text⟩ :: rest)
    else a :: editParts (b :: rest)
  | parts => parts
termination_by parts.length

/-- Reads all parts of a script. -/
def readParts (extended : Bool) : List (EditPart × Nat) → EditScript → Except String EditScript
  | [], script =>
    match script.opened with
    | [] => .ok script
    | (_, part) :: _ =>
      .error ("-e expression #" ++ toString part ++ ", char 0: unmatched \x60\x7b'")
  | (part, number) :: rest, script =>
    let text := part.text.toList
    match (EditScript.readSteps extended number (text.length + 1) script).run text with
    | .ok (script, _) => readParts extended rest script
    | .error (complaint, left) =>
      let place := text.length - left
      .error (match part.file with
        | some path =>
          let line := (text.take place).count '\n' + 1
          "file " ++ path ++ " line " ++ toString line ++ ": " ++ complaint
        | none =>
          "-e expression #" ++ toString number ++ ", char " ++ toString place ++ ": " ++ complaint)

/-- A label that a command goes to and that is nowhere. -/
def lostLabel? (steps : Array EditStep) : Option String :=
  steps.toList.findSome? fun step => match step.command with
    | .branch _ name => if (placeOfLabel steps name).isNone then some name else none
    | _ => none

/-- The files that a script writes. -/
def writtenPaths (steps : Array EditStep) : List String :=
  steps.toList.filterMap fun step => match step.command with
    | .writeFile path | .writeLine path => some path
    | .substitute sub => sub.path
    | _ => none

/-- The state of an editor at its start. -/
def EditState.start (steps : Array EditStep) (m : Machine) : EditState where
  machine := m
  printed := []
  unfinished := false
  paths := []
  path := "-"
  lines := []
  number := 0
  space := ""
  ended := true
  hold := ""
  additions := []
  replaced := false
  -- A range that begins before the first line has begun.
  ranges := steps.toList.zipIdx.filterMap fun (step, place) => match step.choice.first with
    | some (.line 0) => some (place, none)
    | _ => none
  used := none
  sources := []
  missing := false
  broken := none

/-- Works on one file, whose lines are counted from one, and puts the result in its place if that is
asked for. -/
def editFile (start : Starter) (setup : EditSetup) (ending : Option String) (path : String)
    (result : Option Nat × Bool × EditState) : Option Nat × Bool × EditState :=
  match result with
  | (none, false, s) =>
    let special := ending.isSome && match s.machine.standing path with
      | some (_, .file _ _) | none => false
      | _ => true
    if special then
      (none, false, { s with
        broken := some 4
        machine := s.machine.warn ("couldn't edit " ++ path ++ ": not a regular file") })
    else
      let old := match s.machine.tree.read (pathOf path) with
        | .ok bytes => textOfBytes bytes
        | .error _ => ""
      let before := s.printed
      let s := { s with paths := [path], number := 0, lines := [], broken := none }
      let s := if ending.isSome then { s with printed := [] } else s
      let (status, endless, s) := editLines start setup (old.length + 1000000) false s
      match ending with
      | none => (status, endless, s)
      | some ending =>
        let found := (s.machine.standing path).isSome
        let text := String.join s.printed.reverse
        let backup := if ending.contains '*' then
            below (directoryName path) (ending.replace "*" (baseName path))
          else path ++ ending
        let save (path text : String) (m : Machine) : Machine :=
          match overwrite path text m with
          | .ok m => m
          | .error _ => m
        let m := s.machine
        let m := if found && !ending.isEmpty then save backup old m else m
        let m := if found then save path text m else m
        (status, endless, { s with machine := m, printed := before, unfinished := false })
  | result => result

/-- Edits lines by a script. -/
def sed : Utility := fun start args m =>
  let usage (m : Machine) : Flow × Machine :=
    (m.complain ("Usage: " ++ m.name ++
      " [OPTION]... \x7bscript-only-if-no-other-script\x7d [input-file]...\n")).done 1
  match editTable.readAll (withInPlace args) with
  | .error text => usage (m.warn text)
  | .ok o =>
    let given := o.given.filter fun entry => entry.1 = 'e' || entry.1 = 'f'
    let parts : Except (String × SystemError) (List EditPart × Machine) :=
      given.foldlM
        (fun (parts, m) (letter, value) =>
          if letter = 'e' then .ok (parts ++ [⟨none, value⟩], m)
          else match m.openInput value with
          | .ok (text, m) => .ok (parts ++ [⟨some value, text⟩], m)
          | .error e => .error (value, e)) ([], m)
    match parts, o.operands with
    | .error (path, e), _ => m.report ("couldn't open file " ++ path ++ ": " ++ plainMessage e) 1
    | .ok ([], m), [] => usage m
    | .ok (parts, m), operands =>
      let (parts, paths) : List EditPart × List String := match parts with
        | [] => ([⟨none, operands.head?.getD ""⟩], operands.tail)
        | parts => (parts, operands)
      let extended := o.has 'E' || o.has 'r'
      let parts := editParts parts
      let marked := parts.head?.any fun part =>
        part.text = "#n" || part.text.startsWith "#n\n"
      match readParts extended (parts.zipIdx 1) ⟨#[], []⟩ with
      | .error text => m.report text 1
      | .ok script =>
        match lostLabel? script.steps with
        | some name => m.report ("can't find label for jump to \x60" ++ name ++ "'") 1
        | none =>
          let written := (writtenPaths script.steps).foldl
            (fun (result : Except (String × SystemError) Machine) path => match result with
              | .ok m =>
                if path = "/dev/stdout" || path = "/dev/stderr" then .ok m
                else match overwrite path "" m with
                | .ok m => .ok m
                | .error e => .error (path, e)
              | .error e => .error e) (.ok m)
          match written with
          | .error (path, e) =>
            m.report ("couldn't open file " ++ path ++ ": " ++ plainMessage e) 4
          | .ok m =>
            let setup : EditSetup :=
              { steps := script.steps, quiet := o.has 'n' || marked
                width := ((o.value? 'l').bind String.toNat?).getD 70
                stop := if o.has 'z' then '\x00' else '\n' }
            let s := EditState.start script.steps m
            let inPlace := o.value? 'i'
            if inPlace.isSome && paths.isEmpty then m.report "no input files" 1
            else
              let paths := if paths.isEmpty then ["-"] else paths
              let (status, endless, s) :=
                if o.has 's' || inPlace.isSome then
                  paths.foldl (fun result path => editFile start setup inPlace path result)
                    (none, false, s)
                else editLines start setup fuelOfLines false { s with paths := paths }
              let m := s.machine.print 1 (String.join s.printed.reverse)
              if endless then (.killed 0, m)
              else m.done (match status.filter (· ≠ 0), s.broken with
                | some status, _ => status
                | none, some status => status
                | none, none => if s.missing then 2 else 0)
where
  /-- The number of lines after which the editor counts as endless. -/
  fuelOfLines : Nat := 1000000

end SmellRefactor.Shell
