import SmellRefactor.Shell.Format
import SmellRefactor.Shell.Programs
import SmellRefactor.Shell.Signal
import SmellRefactor.Shell.Utility.Basic

/-!
# Programs that start programs, and programs about the system

Starting a program with other variables, with a limit of time, or again and again with arguments
from the input; and what is known about the system and its only user.
-/

namespace SmellRefactor.Shell

/-! ## Time -/

/-- A time such as `1.5m`, in thousandths of a second. -/
def duration? (text : String) : Option Nat :=
  let factor : List Char → Option Nat
    | [] | ['s'] => some 1
    | ['m'] => some 60
    | ['h'] => some 3600
    | ['d'] => some 86400
    | _ => none
  match text.toList.head?.filter (· ≠ '-'), readReal text.toList with
  | some _, some (real, rest) =>
    match real with
    | .finite false mantissa exponent =>
      (factor rest).map fun n =>
        mantissa * n * 1000 * Decimal.twoTo exponent.toNat / Decimal.twoTo (-exponent).toNat
    | .infinite false => (factor rest).map fun _ => Decimal.tenTo 18
    | _ => none
  | _, _ => none

/-- Waits.  At the time at which everything is ended, so is this. -/
def sleep : Builtin :=
  withTable { flags := "", valued := "", mixed := true, badStatus := 1, long := [] } fun o m =>
    if o.operands.isEmpty then m.misuse "missing operand"
    else
      let bad := o.operands.filter fun text => (duration? text).isNone
      if bad.isEmpty then
        let whole := (o.operands.filterMap duration?).foldl (· + ·) 0
        let m := { m with clock := m.clock + whole }
        if m.expired then (.killed 15, { m with clock := m.deadline.getD m.clock }) else m.done 0
      else
        let m := bad.foldl (fun m text => m.warn ("invalid time interval '" ++ text ++ "'")) m
        (m.complain ("Try '" ++ m.name ++ " --help' for more information.\n")).done 1

/-- Makes sure that files are kept. -/
def sync : Builtin :=
  withTable
    { flags := "df", valued := "", mixed := true, badStatus := 1
      long := [("data", 'd'), ("file-system", 'f')] } fun o m =>
    let (status, m) := o.operands.foldl
      (fun (state : Nat × Machine) path =>
        match state.2.tree.lookup (pathOf path) with
        | .ok _ => state
        | .error e =>
          (1, state.2.warn ("error opening '" ++ path ++ "': " ++ plainMessage e))) (0, m)
    m.done status

/-! ## Starting programs -/

/-- Starts a program in place of the one that runs. -/
def startInstead (start : Starter) (words : List String) (complaint : String → String)
    (m : Machine) : Flow × Machine :=
  match words with
  | [] => m.done 0
  | name :: args =>
    match start name args m with
    | .ok (.killed signal, m) => (.killed signal, m)
    | .ok (_, after) => (.next, after)
    | .error e =>
      m.report (complaint name ++ ": " ++ plainMessage e) (if e = .notFound then 127 else 126)

/-- The variables that programs get, the oldest first. -/
def environmentOf (m : Machine) : List (String × String) :=
  (m.bindings.filter fun b => m.exported.contains b.1).reverse.filterMap fun (name, value) =>
    value.text?.map fun text => (name, text)

/-- The words of a text that is one argument of `env`. -/
def splitWords : Bool → List Char → Option Char → List Char → List String
  | begun, word, _, [] => if begun then [String.ofList word.reverse] else []
  | begun, word, quote, c :: rest =>
    match quote with
    | some q => if c = q then splitWords true word none rest
        else splitWords true (c :: word) quote rest
    | none =>
      if c = '\'' || c = '"' then splitWords true word (some c) rest
      else if c = ' ' || c = '\t' || c = '\n' then
        if begun then String.ofList word.reverse :: splitWords false [] none rest
        else splitWords false [] none rest
      else splitWords true (c :: word) none rest

/-- Starts a program with other variables, or shows them. -/
def env : Utility := fun start args m =>
  withTable
    { flags := "i0v", valued := "uCS", mixed := false, badStatus := 125
      long := [("ignore-environment", 'i'), ("unset", 'u'), ("chdir", 'C'), ("null", '0'),
        ("split-string", 'S'), ("debug", 'v')] }
    (fun o m =>
      let words := ((o.value? 'S').map fun text => splitWords false [] none text.toList).getD [] ++
        o.operands
      let (clear, words) := match words with
        | "-" :: words => (true, words)
        | words => (o.has 'i', words)
      -- Programs are still found when no variable says where they are.
      let m := if clear then
          { m with bindings := [("PATH", .text "/bin:/usr/bin")], exported := [] }
        else m
      let m := (o.values 'u').foldl Machine.unset m
      let settings := words.takeWhile fun word => word.contains '=' && !word.startsWith "="
      let m := settings.foldl
        (fun m word =>
          let name := String.ofList (word.toList.takeWhile (· ≠ '='))
          let m := m.put name (.text (word.drop (name.length + 1)).toString)
          { m with exported := name :: m.exported.filter (· ≠ name) }) m
      let moved : Except SystemError Machine := match o.value? 'C' with
        | none => .ok m
        | some path => (m.tree.changeDirectory (pathOf path)).map fun tree => { m with tree := tree }
      match moved, words.drop settings.length with
      | .error e, _ =>
        m.report ("cannot change directory to '" ++ (o.value? 'C').getD "" ++ "': " ++
          plainMessage e) 125
      | .ok m, [] =>
        let stop := if o.has '0' then "\x00" else "\n"
        (m.print 1 (String.join ((environmentOf m).map fun (name, text) =>
          name ++ "=" ++ text ++ stop))).done 0
      | .ok m, words => startInstead start words (fun name => "'" ++ name ++ "'") m)
    (match args with
      | "-" :: rest => "-i" :: rest
      | args => args) m

/-- Shows variables. -/
def printenv : Builtin :=
  withTable
    { flags := "0", valued := "", mixed := false, badStatus := 2, long := [("null", '0')] }
    fun o m =>
      let stop := if o.has '0' then "\x00" else "\n"
      if o.operands.isEmpty then
        (m.print 1 (String.join ((environmentOf m).map fun (name, text) =>
          name ++ "=" ++ text ++ stop))).done 0
      else
        let texts := o.operands.map fun name =>
          if m.exported.contains name then m.get? name else none
        let m := m.print 1 (String.join (texts.filterMap fun text => text.map (· ++ stop)))
        m.done (if texts.all Option.isSome then 0 else 1)

/-- Starts a program that is ended after some time. -/
def timeout : Utility := fun start =>
  withTable
    { flags := "fvp", valued := "ks", mixed := false, badStatus := 125
      long := [("foreground", 'f'), ("preserve-status", 'p'), ("kill-after", 'k'), ("signal", 's'),
        ("verbose", 'v')] }
    fun o m =>
      let signal? := match o.value? 's' with
        | none => some 15
        | some text => signalNamed? .rich text
      let hint (m : Machine) : Flow × Machine :=
        (m.complain ("Try '" ++ m.name ++ " --help' for more information.\n")).done 125
      match o.operands, signal? with
      | _, none => hint (m.warn ("'" ++ (o.value? 's').getD "" ++ "': invalid signal"))
      | time :: name :: args, some signal =>
        match duration? time, (o.value? 'k').filter fun text => (duration? text).isNone with
        | _, some text => hint (m.warn ("invalid time interval '" ++ text ++ "'"))
        | none, none => hint (m.warn ("invalid time interval '" ++ time ++ "'"))
        | some time, none =>
          let limit := if time = 0 then m.deadline
            else match m.deadline with
              | none => some (m.clock + time)
              | some deadline => some (min deadline (m.clock + time))
          let limited := { m with deadline := limit }
          match start name args limited with
          | .error e =>
            m.report ("failed to run command '" ++ name ++ "': " ++ plainMessage e)
              (if e = .notFound then 127 else 126)
          | .ok (flow, after) =>
            let late := after.expired
            let endless : Bool := match flow with
              | .killed 0 => time ≠ 0
              | _ => false
            let after := { after with deadline := m.deadline }
            if late || endless then
              let after := if o.has 'v' then
                  after.warn ("sending signal " ++ (signalName? signal).getD "" ++
                    " to command '" ++ name ++ "'")
                else after
              if signal = 9 then (.killed 9, after)
              else after.done (if o.has 'p' then 128 + signal else 124)
            else match flow with
            | .killed signal => (.killed signal, after)
            | _ => (.next, after)
      | _, some _ => hint m

/-- Starts a program that goes on when the terminal is gone. -/
def nohup : Utility := fun start =>
  withTable { flags := "", valued := "", mixed := false, badStatus := 125, long := [] } fun o m =>
    if o.operands.isEmpty then m.misuseWith 125 "missing operand"
    else startInstead start o.operands (fun name => "failed to run command '" ++ name ++ "'") m

/-- Starts a program with less urgency, or tells the urgency. -/
def nice : Utility := fun start args m =>
  let args := match args with
    | first :: rest =>
      match first.toList with
      | '-' :: c :: cs => if c.isDigit && cs.all Char.isDigit then rest else args
      | _ => args
    | [] => []
  withTable
    { flags := "", valued := "n", mixed := false, badStatus := 125, long := [("adjustment", 'n')] }
    (fun o m =>
      let isNumber (text : String) : Bool := text.toInt?.isSome
      match (o.value? 'n').filter fun text => !isNumber text with
      | some text => m.report ("invalid adjustment '" ++ text ++ "'") 125
      | none =>
        if o.operands.isEmpty then
          if o.given.isEmpty then (m.print 1 "0\n").done 0
          else m.misuseWith 125 "a command must be given with an adjustment"
        else startInstead start o.operands (fun name => "'" ++ name ++ "'") m) args m

/-! ## Arguments from the input -/

/-- The words of an input, with quotes and backslashes, and for each of them whether a line ends
behind it; and the quote that is not closed, if there is one.  `word` is what has been read of a
word, backwards, if one has begun. -/
def readItems (byLine : Bool) : Option Char → Option (List Char) → List Char →
    List (String × Bool) × Option Char
  | none, word, [] => (match word with
    | none => []
    | some w => [(String.ofList w.reverse, true)], none)
  | some quote, _, [] => ([], some quote)
  | some quote, word, c :: rest =>
    if c = quote then readItems byLine none (some (word.getD [])) rest
    else if c = '\n' then ([], some quote)
    else readItems byLine (some quote) (some (c :: word.getD [])) rest
  | none, word, '\\' :: c :: rest => readItems byLine none (some (c :: word.getD [])) rest
  | none, word, c :: rest =>
    if c = '\'' || c = '"' then readItems byLine (some c) (some (word.getD [])) rest
    else if c = '\n' || ((c = ' ' || c = '\t') && (!byLine || word.isNone)) then
      match word with
      | none => readItems byLine none none rest
      | some w =>
        let (items, problem) := readItems byLine none none rest
        ((String.ofList w.reverse, c = '\n') :: items, problem)
    else readItems byLine none (some (c :: word.getD [])) rest

/-- Groups of at most so many texts. -/
def groupsOf (size : Nat) : Nat → List String → List (List String)
  | 0, items => if items.isEmpty then [] else [items]
  | fuel + 1, items =>
    if items.isEmpty then []
    else items.take (max 1 size) :: groupsOf size fuel (items.drop (max 1 size))

/-- Groups of the words of so many lines; a line that ends with a blank goes on. -/
def lineGroups (lines : Nat) : Nat → List String → List (String × Bool) → List (List String)
  | _, group, [] => if group.isEmpty then [] else [group.reverse]
  | done, group, (word, isLast) :: rest =>
    if isLast && done + 1 = lines then (word :: group).reverse :: lineGroups lines 0 [] rest
    else lineGroups lines (if isLast then done + 1 else done) (word :: group) rest

/-- Runs commands until one of them cannot be run or asks for the end. -/
def runGroups (start : Starter) (traced : Bool) (status : Nat) (groups : List (List String))
    (m : Machine) : Nat × Machine :=
  match groups with
  | [] => (status, m)
  | [] :: rest => runGroups start traced status rest m
  | (name :: args) :: rest =>
    let m := if traced then m.complain (" ".intercalate (name :: args) ++ "\n") else m
    match start name args m with
    | .error e =>
      (if e = .notFound then 127 else 126, m.warn (name ++ ": " ++ plainMessage e))
    | .ok (.killed signal, m) =>
      (125, m.warn (name ++ ": terminated by signal " ++ toString signal))
    | .ok (_, m) =>
      if m.status = 255 then
        (124, m.warn (name ++ ": exited with status 255; aborting"))
      else runGroups start traced (if m.status = 0 then status else 123) rest m

/-- Starts a program with arguments from the input. -/
def xargs : Utility := fun start args m =>
  withTable
    { flags := "0rtxpo", valued := "aEIdLnPs", mixed := false, badStatus := 1
      long := [("null", '0'), ("no-run-if-empty", 'r'), ("verbose", 't'), ("arg-file", 'a'),
        ("delimiter", 'd'), ("max-lines", 'L'), ("max-args", 'n'), ("max-procs", 'P'),
        ("replace", 'I'), ("exit", 'x'), ("max-chars", 's')] }
    (fun o m =>
      let wrong := ['n', 'L', 'P', 's'].findSome? fun letter =>
        (o.value? letter).bind fun text =>
          if text.toNat?.isNone then some (letter, text) else none
      let source : Except SystemError (String × Machine) := match o.value? 'a' with
        | none => .ok (m.input, m.drain)
        | some path => m.openInput path
      match wrong, source with
      | some (letter, text), _ =>
        m.misuse ("invalid number \"" ++ text ++ "\" for -" ++ letter.toString ++ " option")
      | none, .error e =>
        m.report ("Cannot open input file '" ++ (o.value? 'a').getD "" ++ "': " ++
          plainMessage e) 1
      | none, .ok (text, m) =>
        let delimiter := if o.has '0' then some '\x00'
          else (o.value? 'd').bind fun text => match text.toList with
            | ['\\', 'n'] => some '\n'
            | ['\\', 't'] => some '\t'
            | ['\\', '0'] => some '\x00'
            | c :: _ => some c
            | [] => none
        let hole := o.value? 'I'
        let (items, problem) := match delimiter with
          | some c =>
            let parts := text.splitOn c.toString
            let parts := if parts.getLast? = some "" then parts.dropLast else parts
            (parts.map fun part => (part, true), none)
          | none => readItems hole.isSome none none text.toList
        let m := match problem with
          | none => m
          | some c => m.warn ("unmatched " ++ (if c = '"' then "double" else "single") ++
              " quote; by default quotes are special to xargs unless you use the -0 option")
        let stop := o.value? 'E'
        let items := items.takeWhile fun item => some item.1 ≠ stop
        let command := if o.operands.isEmpty then ["echo"] else o.operands
        let words := items.map Prod.fst
        let groups := match hole with
          | some hole => words.map fun word =>
              command.head?.toList ++ command.tail.map fun arg => arg.replace hole word
          | none =>
            let groups := match (o.last? ['n', 'L']), o.value? 'n', o.value? 'L' with
              | some 'n', some n, _ => groupsOf (n.toNat?.getD 1) words.length words
              | some 'L', _, some n => lineGroups (n.toNat?.getD 1) 0 [] items
              | _, _, _ => if words.isEmpty then [] else [words]
            let groups := if groups.isEmpty && !o.has 'r' && problem.isNone then [[]] else groups
            groups.map (command ++ ·)
        let (status, m) := runGroups start (o.has 't') 0 groups m
        m.done (if problem.isSome then 1 else status))
    (args.map fun arg => if arg = "-i" then "-I\x7b\x7d" else arg) m

/-! ## The system -/

/-- Sends signals to programs, of which there are none. -/
def killProgram : Builtin := fun args m =>
  match args with
  | ["-l"] => (m.print 1 (" ".intercalate (signals.map Prod.fst) ++ "\n")).done 0
  | "-l" :: text :: _ =>
    let name := text.toNat?.bind fun n => if n = 0 then none else signalName? n
    let number := (signalNamed? .rich text).map toString
    (m.print 1 ((name.getD (number.getD "")) ++ "\n")).done 0
  | args =>
    let targets := match args with
      | "-s" :: _ :: rest => rest
      | first :: rest => if first.startsWith "-" then rest else args
      | [] => []
    let step (m : Machine) (target : String) : Machine :=
      if target.toInt?.isNone then m.warn ("failed to parse argument: '" ++ target ++ "'")
      else m.warn ("(" ++ target ++ "): No such process")
    (targets.foldl step m).done 1

/-- Tells who the user is. -/
def id : Builtin :=
  withTable
    { flags := "aGgnruz", valued := "", mixed := true, badStatus := 1
      long := [("group", 'g'), ("groups", 'G'), ("name", 'n'), ("real", 'r'), ("user", 'u')] }
    fun o m =>
      match o.operands.filter fun user => user ≠ "root" && user ≠ "0" with
      | user :: _ => m.report ("'" ++ user ++ "': no such user") 1
      | [] =>
        let text := if o.has 'u' || o.has 'g' || o.has 'G' then if o.has 'n' then "root" else "0"
          else "uid=0(root) gid=0(root) groups=0(root)"
        (m.print 1 (text ++ "\n")).done 0

/-- A program without arguments that writes a line. -/
def saying (line : String) : Builtin :=
  withTable { flags := "", valued := "", mixed := true, badStatus := 1, long := [] } fun o m =>
    match o.operands with
    | [] => (m.print 1 (line ++ "\n")).done 0
    | extra :: _ => m.misuse ("extra operand '" ++ extra ++ "'")

/-- Tells what the system is. -/
def uname : Builtin :=
  withTable
    { flags := "asnrvmpio", valued := "", mixed := true, badStatus := 1
      long := [("all", 'a'), ("kernel-name", 's'), ("machine", 'm')] }
    fun o m =>
      let fields := [('s', "Linux"), ('n', "localhost"), ('r', "6.0.0"), ('v', "#1"),
        ('m', "x86_64"), ('o', "GNU/Linux")]
      let shown := if o.given.isEmpty then ["Linux"]
        else (fields.filter fun f => o.has 'a' || o.has f.1).map Prod.snd
      match o.operands with
      | [] => (m.print 1 (" ".intercalate shown ++ "\n")).done 0
      | extra :: _ => m.misuse ("extra operand '" ++ extra ++ "'")

/-- Tells where programs are. -/
def which : Builtin :=
  withTable
    { flags := "as", valued := "", mixed := true, badStatus := 2, long := [] } fun o m =>
    let directories := ((m.get? "PATH").getD "").splitOn ":"
    let found := o.operands.map fun name =>
      ((candidates directories (decoded name)).filter fun path =>
        (programAt m.tree path).isOk).map fun path => encoded path.text
    let shown := found.flatMap fun paths => if o.has 'a' then paths else paths.take 1
    let m := if o.has 's' then m else m.print 1 (unlines shown)
    m.done (if found.isEmpty || found.any List.isEmpty then 1 else 0)

/-- Tells that there is no terminal. -/
def tty : Builtin :=
  withTable
    { flags := "s", valued := "", mixed := true, badStatus := 2
      long := [("silent", 's'), ("quiet", 's')] } fun o m =>
    (if o.has 's' then m else m.print 1 "not a tty\n").done 1

end SmellRefactor.Shell
