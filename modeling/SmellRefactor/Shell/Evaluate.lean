import SmellRefactor.Shell.Builtin
import SmellRefactor.Shell.Direction
import SmellRefactor.Shell.Expression.Reader
import SmellRefactor.Shell.Trace
import SmellRefactor.Shell.Utility

/-!
# Running shell scripts

Words are filled in, inputs and outputs are directed, and commands run one after another on the
state of the shell.  Loops can go on for ever, so all of this takes fuel, which also bounds the
number of rounds; a script that runs out of it ends like one that is killed.
-/

namespace SmellRefactor.Shell

/-- The status with which a script has ended. -/
def endStatus (flow : Flow) (m : Machine) : Nat :=
  match flow with
  | .exit status | .returned status => status % 256
  | .killed signal => 128 + signal
  | _ => m.status % 256

namespace Machine

/-- The machine for commands that run in a shell of their own. -/
def inner (m : Machine) : Machine :=
  { m with traps := m.traps.filter fun entry => entry.2.isEmpty }

/-- The machine of a program that is started. -/
def process (m : Machine) (name : String) : Machine :=
  { m with
    name := name
    refused := none
    bindings := m.bindings.filter fun b => m.exported.contains b.1 }

/-- The machine of a shell that is started as a program.  It looks for programs in the usual places
if no variable says where they are. -/
def nested (m : Machine) (dialect : Dialect) (name : String) : Machine :=
  let inherited := m.bindings.filter fun b => m.exported.contains b.1
  let places := environment.filter fun b => b.1 = "PATH" && !m.exported.contains b.1
  { Machine.start m.tree name [] with
    dialect := dialect
    context := if dialect = .rich then name else ""
    number := m.number + 1
    bindings := inherited ++ places.map fun b => (b.1, .text b.2)
    exported := m.exported
    traps := m.inner.traps
    mask := m.mask
    sources := m.sources
    collected := m.collected
    output := m.output
    complaint := m.complaint
    channels := m.channels
    clock := m.clock
    deadline := m.deadline }

/-- The machine after another shell has run in between: what it did to the world stays. -/
def resume (m inner : Machine) (status : Nat) : Machine :=
  { m with
    tree := { inner.tree with current := m.tree.current }
    sources := inner.sources.take m.sources.length
    collected := inner.collected.take m.collected.length
    output := inner.output
    complaint := inner.complaint
    clock := inner.clock
    status := status }

/-- The machine with the bindings that another one has for some names. -/
def withBindings (m old : Machine) (names : List String) : Machine :=
  names.foldl
    (fun m name => match old.value? name with
      | some value => m.put name value
      | none => m.unset name) m

/-- The machine after a function: what the function had made its own is as before. -/
def afterCall (m before : Machine) : Machine :=
  let restored := (m.locals.getD []).foldl
    (fun m entry => match entry.2 with
      | some value => m.put entry.1 value
      | none => m.unset entry.1) m
  { restored with
    arguments := before.arguments
    locals := before.locals
    loops := before.loops
    context := before.context }

/-- Ends a command because of a redirection that cannot be followed. -/
def undirectable (m : Machine) (special : Bool) (text : String) : Flow × Machine :=
  let text := m.placed text
  match m.dialect with
  | .plain => if special then m.refuse text 2 else m.fail text 2
  | .rich => m.fail text 1

/-- Ends the script because of a word that cannot be filled in. -/
def faulted (m : Machine) (fault : Fault) : Flow × Machine := m.refuse fault.text fault.status

/-- The machine and the flow of a builtin that may not have been able to write. -/
def written (name : String) (result : Flow × Machine) : Flow × Machine :=
  let (flow, m) := result
  match m.refused with
  | none => result
  | some e =>
    let m := { m with refused := none }
    let text := match m.dialect with
      | .plain => name ++ ": " ++ name ++ ": I/O error"
      | .rich => name ++ ": write error: " ++ plainMessage e
    (flow, (m.fail text 1).2)

end Machine

/-- Runs something only to learn whether it succeeds. -/
def ask (m : Machine) (act : Machine → Flow × Machine) : Flow × Machine :=
  let (flow, after) := act { m with asking := true }
  (flow, { after with asking := m.asking })

/-- Runs something in one more loop. -/
def inLoop (m : Machine) (act : Machine → Flow × Machine) : Flow × Machine :=
  let (flow, after) := act { m with loops := m.loops + 1 }
  (flow, { after with loops := m.loops })

/-- The commands of a pipeline. -/
def stagesOf : Command → List Command
  | .pipe first second => first :: stagesOf second
  | command => [command]

/-- The arguments of a shell. -/
structure ShellArguments where
  /-- Whether the first of the other arguments is a script. -/
  inline : Bool
  /-- Whether the script is in the input. -/
  fromInput : Bool
  others : List String

/-- Reads the options with which a shell is started.  The error is an option that does not exist. -/
def shellArguments : Nat → List String → ShellArguments → Machine →
    Except String (ShellArguments × Machine)
  | 0, _, found, m => .ok (found, m)
  | _, [], found, m => .ok (found, m)
  | fuel + 1, arg :: rest, found, m =>
    match arg.toList with
    | ['-'] | ['-', '-'] => .ok ({ found with others := rest }, m)
    | '-' :: '-' :: name =>
      if m.dialect = .plain then .error "--"
      else if ["norc", "noprofile", "posix", "login", "noediting"].contains (String.ofList name)
      then shellArguments fuel rest found m
      else .error arg
    | sign :: c :: cs =>
      if sign ≠ '-' && sign ≠ '+' then .ok ({ found with others := arg :: rest }, m)
      else
        let letters := c :: cs
        let found := { found with
          inline := found.inline || letters.contains 'c'
          fromInput := found.fromInput || letters.contains 's' }
        let own := letters.filter fun c => !(['c', 's', 'i', 'l'].contains c)
        if own.isEmpty then shellArguments fuel rest found m
        else
          let named := own.contains 'o'
          let option := String.ofList (sign :: own)
          let words := if named then option :: rest.take 1 else [option]
          match switchOptions words m with
          | .error text => .error text
          | .ok (_, m) => shellArguments fuel (if named then rest.tail else rest) found m
    | _ => .ok ({ found with others := arg :: rest }, m)

/-- The program that the first line of a script asks for, and its argument. -/
def interpreterOf (content : ByteArray) : Option (String × List String) :=
  let text := (textOfBytes (content.extract 0 256)).toList
  match text with
  | '#' :: '!' :: rest =>
    let isBlank (c : Char) : Bool := c = ' ' || c = '\t'
    let line := (rest.takeWhile (· ≠ '\n')).dropWhile isBlank
    let program := line.takeWhile fun c => !isBlank c
    let arg := (line.dropWhile fun c => !isBlank c).dropWhile isBlank
    let arg := (arg.reverse.dropWhile isBlank).reverse
    some (String.ofList program, if arg.isEmpty then [] else [String.ofList arg])
  | _ => none

mutual

/-- What a script writes that runs in a shell of its own. -/
def captured : Nat → List Char → Machine → String × Machine
  | 0, _, m => ("", m)
  | fuel + 1, source, m =>
    let inner := { m.inner.collecting with depth := m.depth + 1, asking := false }
    match if m.dialect = .rich then fileToRead m source else none with
    | some text => (text, { m with status := 0 })
    | none =>
      let (flow, inner) := finish fuel
        (runText fuel m.line "command substitution: " source inner)
      let (text, inner) := inner.takeCollected
      (text, m.resume inner (endStatus flow inner))
where
  /-- The text of a file, if a script does nothing but direct its input. -/
  fileToRead (m : Machine) (source : List Char) : Option String :=
    match readScript m.grammar source with
    | .ok (.simple _ [] [] [⟨0, "<", word⟩]) =>
      match word with
      | [.text path _] => ((m.tree.read (pathOf (String.ofList path))).toOption).map textOfBytes
      | [.parameter name _] =>
        (m.parameter? name).bind fun path =>
          ((m.tree.read (pathOf path)).toOption).map textOfBytes
      | _ => none
    | _ => none

/-- How the output of scripts is obtained while words are filled in. -/
def collect : Nat → List Char → Expansion String
  | 0, _ => pure ""
  | fuel + 1, source => do
    let m ← get
    match m.dialect, readScript m.grammar source with
    | .plain, .error problem =>
      throw ⟨m.placed ("Syntax error: " ++ problem.text), 2⟩
    | _, _ =>
      let (text, m) := captured fuel source m
      set m
      return text

/-- Runs a command. -/
def run : Nat → Command → Machine → Flow × Machine
  | 0, _, m => (.killed 0, m)
  | fuel + 1, command, m =>
    if m.expired then (.killed 15, m)
    else if m.has 'n' then (.next, m)
    else match command with
    | .nothing => m.done 0
    | .simple line assignments words redirects =>
      settle fuel (runSimple fuel assignments words redirects { m with line := line })
    | .negated command =>
      match ask m (run fuel command) with
      | (.next, m) => m.done (if m.status = 0 then 1 else 0)
      | other => other
    | .pipe first second =>
      match runStages fuel (stagesOf (.pipe first second)) [] m with
      | (.killed signal, _, m) => (.killed signal, m)
      | (_, statuses, m) =>
        let failing := (statuses.filter (· ≠ 0)).getLast?
        let status := if m.settings.contains "pipefail" then failing.getD 0
          else statuses.getLast?.getD 0
        settle fuel (.next, { m with statuses := statuses, status := status })
    | .both first second =>
      match ask m (run fuel first) with
      | (.next, m) => if m.status = 0 then run fuel second m else (.next, m)
      | other => other
    | .either first second =>
      match ask m (run fuel first) with
      | (.next, m) => if m.status = 0 then (.next, m) else run fuel second m
      | other => other
    | .sequence first second =>
      match run fuel first m with
      | (.next, m) => run fuel second m
      | other => other
    | .background command =>
      match finish fuel (run fuel command (m.inner.feed 0 ⟨"", false⟩)) with
      | (.killed signal, after) => (.killed signal, after)
      | (flow, after) => (.next, { m.resume after 0 with
          beside := some (endStatus flow after), clock := m.clock })
    | .redirected line body redirects =>
      let m := { m with line := line }
      match (followAll (collect fuel) redirects).run m with
      | (.error fault, m) => m.faulted fault
      | (.ok (some text), inner) => settle fuel ((inner.undirected m redirects).undirectable false text)
      | (.ok none, inner) =>
        let (flow, after) := run fuel body inner
        (flow, after.undirected m redirects)
    | .subshell body =>
      match finish fuel (run fuel body m.inner) with
      | (.killed signal, after) => (.killed signal, after)
      | (flow, after) => settle fuel (.next, m.resume after (endStatus flow after))
    | .define name body =>
      ({ m with functions := (name, body) :: m.functions.filter (·.1 ≠ name) }).done 0
    | .choose condition yes no =>
      match ask m (run fuel condition) with
      | (.next, m) => if m.status = 0 then run fuel yes m else run fuel no { m with status := 0 }
      | other => other
    | .repeated wanted condition body => inLoop m (rounds fuel wanted condition body 0)
    | .each line name none body =>
      inLoop { m with status := 0, line := line } (eachRound fuel name m.arguments m.arguments body)
    | .each line name (some words) body =>
      match (expandWords (collect fuel) words).run { m with line := line } with
      | (.error fault, m) => m.faulted fault
      | (.ok values, m) => inLoop { m with status := 0 } (eachRound fuel name values values body)
    | .select line subject branches =>
      match (expandOne (collect fuel) subject).run { m with line := line } with
      | (.error fault, m) => m.faulted fault
      | (.ok text, m) =>
        let m := if m.dialect = .rich then m.traceLine ("case " ++ tracedText text ++ " in") else m
        firstMatch fuel text branches { m with status := 0 }
    | .test line condition =>
      match (testCondition fuel condition).run { m with line := line } with
      | (.error fault, m) => m.faulted fault
      | (.ok b, m) => settle fuel (m.done (if b then 0 else 1))
    | .compute line expression =>
      let m := { m with line := line }
      let m := m.traceLine ("(( " ++ String.ofList expression ++ " ))")
      match (computeExpression fuel expression).run m with
      | (.error fault, m) => settle fuel (m.fail ("((: " ++ fault.text) 1)
      | (.ok n, m) => settle fuel (m.done (if n = 0 then 1 else 0))
    | .counted line start condition step body =>
      match (computeExpression fuel start).run { m with line := line } with
      | (.error fault, m) => m.fail ("((: " ++ fault.text) 1
      | (.ok _, m) => inLoop { m with status := 0 } (countedRound fuel condition step body)

/-- What follows a command that has failed, where a script must not go on after that. -/
def settle : Nat → Flow × Machine → Flow × Machine
  | 0, (_, m) => (.killed 0, m)
  | fuel + 1, result =>
    match result with
    | (.next, m) =>
      if m.status = 0 || m.asking then (.next, m)
      else
        let status := m.status
        let after := match if m.dialect = .rich then m.traps.lookup failureSignal else none with
          | none => (Flow.next, m)
          | some source => runText fuel 1 "" source.toList { m with asking := true }
        match after with
        | (.next, m') =>
          let m := { m' with status := status, asking := m.asking }
          if m.has 'e' then (.exit status, m) else (.next, m)
        | other => other
    | other => other

/-- Computes an expression in which parameters are filled in first. -/
def computeExpression : Nat → List Char → Expansion Int
  | 0, _ => pure 0
  | fuel + 1, expression => do
    let text ← expandText (collect fuel) expansionFuel .quotedOperand expression
    if text.trimAscii.isEmpty then return 1
    computeText text

/-- Runs the commands of a pipeline, each with the output of the one before as its input. -/
def runStages : Nat → List Command → List Nat → Machine → Flow × List Nat × Machine
  | 0, _, statuses, m => (.killed 0, statuses, m)
  | _, [], statuses, m => (.next, statuses, m)
  | fuel + 1, [last], statuses, m =>
    match finish fuel (run fuel last m.inner) with
    | (.killed signal, after) => (.killed signal, statuses, after)
    | (flow, after) =>
      let status := endStatus flow after
      (.next, statuses ++ [status], m.resume after status)
  | fuel + 1, stage :: stages, statuses, m =>
    match finish fuel (run fuel stage m.inner.collecting) with
    | (.killed signal, after) => (.killed signal, statuses, after)
    | (flow, after) =>
      let status := endStatus flow after
      let (text, after) := after.takeCollected
      let between := (m.resume after status).feed 0 ⟨text, false⟩
      let (flow, statuses, after) := runStages fuel stages (statuses ++ [status]) between
      (flow, statuses, (match m.channel? 0 with
        | some channel => after.direct 0 channel
        | none => after.close 0).trimSources m.sources.length)

/-- Runs a simple command. -/
def runSimple : Nat → List Assignment → List Word → List Redirect → Machine → Flow × Machine
  | 0, _, _, _, m => (.killed 0, m)
  | fuel + 1, assignments, words, redirects, m =>
    match (expandWords (collect fuel) words).run m with
    | (.error fault, m) => m.faulted fault
    | (.ok fields, m) =>
      let name := fields.head?.getD ""
      let special := m.dialect = .plain && specialBuiltins.contains name &&
        (m.functions.lookup name).isNone
      match (followAll (collect fuel) redirects).run m with
      | (.error fault, m) => m.faulted fault
      | (.ok (some text), inner) => (inner.undirected m redirects).undirectable special text
      | (.ok none, inner) =>
        let lists := assignments.filter fun a => declarations.contains name &&
          match a.value with | .list _ => true | _ => false
        let own := if lists.isEmpty then assignments else []
        match (own.forM (assign (collect fuel))).run inner with
        | (.error fault, after) => (after.undirected m redirects).faulted fault
        | (.ok (), inner) =>
          let names := own.map Assignment.name
          let settings := names.map fun name => (name, (inner.get? name).getD "")
          let inner := if m.has 'x' && !(names.isEmpty && fields.isEmpty) then
              -- What is traced goes where complaints went before the redirections.
              let traced := { inner with channels := m.channels }.trace settings fields
              { traced with channels := inner.channels }
            else inner
          match fields with
          | [] =>
            let scripts := (own.any fun a => match a.value with
              | .word word => word.any Piece.isScript
              | .list words => words.any fun word => word.any Piece.isScript) ||
              words.any fun word => word.any Piece.isScript
            let after := inner.undirected m redirects
            (.next, if scripts then after else { after with status := 0 })
          | ["exec"] => inner.done 0
          | name :: args =>
            let exporting := if names.isEmpty then inner
              else { inner with exported := names ++ inner.exported }
            let (flow, after) := invoke fuel name (args ++ lists.map Assignment.name) exporting
            let after := after.undirected m redirects
            let after := match (lists.forM (assign (collect fuel))).run after with
              | (_, after) => after
            if names.isEmpty then (flow, after)
            else
              let after := { after with exported := after.exported.drop names.length }
              (flow, if special then after else after.withBindings m names)

/-- Runs a function or another command. -/
def invoke : Nat → String → List String → Machine → Flow × Machine
  | 0, _, _, m => (.killed 0, m)
  | fuel + 1, name, args, m =>
    match if specialBuiltins.contains name && m.dialect = .plain then none
      else m.functions.lookup name with
    | none => command fuel name args m
    | some body =>
      let within := { m with
        arguments := args, locals := some [], loops := 0
        context := if m.dialect = .rich then m.functionContext else m.context }
      match run fuel body within with
      | (.returned status, after) => (after.afterCall m).done status
      | (flow, after) => (flow, after.afterCall m)

/-- Runs a command that is no function. -/
def command : Nat → String → List String → Machine → Flow × Machine
  | 0, _, _, m => (.killed 0, m)
  | fuel + 1, name, args, m =>
    let isOwn := (ownCommands m.dialect).contains name
    match if isOwn then none else builtin? m.dialect name with
    | some run =>
      match Machine.written name (run args { m with refused := none }) with
      | (.killed signal, m) =>
        match if certainSignals.contains signal then none else m.traps.lookup signal with
        | some source => runText fuel 1 "" source.toList m
        | none => if harmlessSignals.contains signal then m.done 0 else (.killed signal, m)
      | other => other
    | none =>
      match if isOwn then name else "", args with
      | "eval", args =>
        let args := if args.head? = some "--" then args.tail else args
        let context := if m.dialect = .plain then "eval" else m.context
        let line := if m.dialect = .plain then 1 else m.line
        let (flow, after) := runText fuel line "eval: " (" ".intercalate args).toList
          { m with context := context, status := if args.isEmpty then 0 else m.status }
        (flow, { after with context := m.context })
      | "exec", args =>
        let args := if args.head? = some "--" then args.tail else args
        match args with
        | [] => m.done 0
        | program :: args =>
          match startProgram fuel program args m with
          | .ok (.killed signal, m) => (.killed signal, m)
          | .ok (flow, m) => (.exit (endStatus flow m), m)
          | .error e =>
            let (_, m) := notStarted { m with context := if m.dialect = .plain then "exec" else m.context }
              (if m.dialect = .rich then "exec: " else "") program e
            (.exit m.status, m)
      | "command", [] => m.done 0
      | "command", "-v" :: names => m.tellCommands false names
      | "command", "-V" :: names => m.tellCommands true names
      | "command", "-p" :: name :: args | "command", "--" :: name :: args =>
        command fuel name args m
      | "command", name :: args =>
        match name.toList with
        | '-' :: c :: _ => badOption "command" c "command [-pVv] command [arg ...]" m
        | _ =>
          match command fuel name args m with
          | (.exit status, after) =>
            -- An error in a command does not end the script when it is run in this way.
            if ["exit", "exec", "eval"].contains name then (.exit status, after)
            else after.done status
          | other => other
      | "builtin", [] => m.done 0
      | "builtin", name :: args =>
        if isBuiltin m.dialect name then command fuel name args m
        else m.fail ("builtin: " ++ name ++ ": not a shell builtin") 1
      | "type", names => m.describeNames names
      | "hash", args => m.hashNames args
      | ".", [] | "source", [] =>
        if m.dialect = .plain then m.done 0
        else
          let (_, m) := m.fail (name ++ ": filename argument required") 2
          (m.complain (name ++ ": usage: " ++ name ++ " filename [arguments]\n")).done 2
      | ".", path :: args | "source", path :: args => sourceFile fuel name path args m
      | _, _ =>
        match startProgram fuel name args m with
        | .ok (.killed signal, m) =>
          if signal = 0 || m.expired then (.killed signal, m)
          else (m.complain (signalReport signal)).done (128 + signal)
        | .ok other => other
        | .error e => notStarted m "" name e
where
  /-- Says why a program could not be started. -/
  notStarted (m : Machine) (label name : String) (e : SystemError) : Flow × Machine :=
    match m.dialect with
    | .plain =>
      let denied : Bool := name.isEmpty || e = .permissionDenied || name = ".."
      let missing : Bool := !denied && (e = .notFound || e = .notDirectory)
      let text := if denied then "Permission denied"
        else if missing then "not found" else plainMessage e
      m.fail (m.placed (name ++ ": " ++ text))
        (if missing || !(name.contains '/' || m.context = "exec") then 127 else 126)
    | .rich =>
      let isDirectory : Bool := name.contains '/' && (m.standing name).any fun entry =>
        entry.2.isDirectory
      if isDirectory then m.fail (label ++ name ++ ": Is a directory") 126
      else if e = .permissionDenied then
        m.fail (label ++ name ++ ": Permission denied") 126
      else if name.contains '/' then
        m.fail (label ++ name ++ ": " ++ plainMessage e) (if e = .notFound then 127 else 126)
      else m.fail (label ++ name ++ if label.isEmpty then ": command not found"
        else ": not found") 127

/-- Runs the commands of a file in the shell itself. -/
def sourceFile : Nat → String → String → List String → Machine → Flow × Machine
  | 0, _, _, _, m => (.killed 0, m)
  | fuel + 1, name, path, args, m =>
    let candidates := if path.contains '/' then [path]
      else (m.searchPath.map fun d => if d.isEmpty then path else d ++ "/" ++ path) ++
        (if m.dialect = .rich then [path] else [])
    let found := candidates.findSome? fun p =>
      match m.standing p with
      | some (_, .file content _) => some (p, content)
      | _ => none
    match m.dialect, found with
    | .plain, none =>
      if path.contains '/' then
        match m.tree.read (pathOf path) with
        | .error e => m.refuse (".: " ++ openComplaint m false path e) 2
        | .ok _ => m.done 0
      else m.refuse (".: " ++ path ++ ": not found") 2
    | .rich, none =>
      match m.tree.read (pathOf path) with
      | .error .isDirectory => m.fail (name ++ ": " ++ path ++ ": is a directory") 1
      | .error e => m.fail (path ++ ": " ++ plainMessage e) 1
      | .ok _ => m.done 0
    | dialect, some (place, content) =>
      let within := { m with
        context := if dialect = .plain then path else place
        status := 0
        arguments := if dialect = .rich && !args.isEmpty then args else m.arguments }
      let restore (after : Machine) : Machine :=
        { after with
          context := m.context
          arguments := if dialect = .rich && !args.isEmpty then m.arguments else after.arguments }
      match runText fuel 1 "" (textOfBytes content).toList within with
      | (.returned status, after) => (restore after).done status
      | (flow, after) => (flow, restore after)

/-- Starts a program by its name or path, and waits for its end. -/
def startProgram : Nat → String → List String → Machine →
    Except SystemError (Flow × Machine)
  | 0, _, _, m => .ok (.killed 0, m)
  | fuel + 1, name, args, m =>
    match findProgram m.tree m.searchPath (decoded name) with
    | .error e => .error e
    | .ok (.known known) => .ok (runProgram fuel known name args m)
    | .ok (.script path content) =>
      let path := encoded path
      match interpreterOf content with
      | none => .ok (runProgram fuel "sh" "sh" (path :: args) m)
      | some (program, first) =>
        match findProgram m.tree [""] (decoded program) with
        | .ok (.known known) => .ok (runProgram fuel known program (first ++ path :: args) m)
        | .ok (.script _ _) => .error .permissionDenied
        | .error e => .error e

/-- Runs a program that is known under one name and was called by another. -/
def runProgram : Nat → String → String → List String → Machine → Flow × Machine
  | 0, _, _, _, m => (.killed 0, m)
  | fuel + 1, known, name, args, m =>
    let shell (dialect : Dialect) : Flow × Machine :=
      match finish fuel (runShell fuel args (m.nested dialect name)) with
      | (.killed signal, inner) => (.killed signal, m.resume inner (128 + signal))
      | (flow, inner) => (m.resume inner (endStatus flow inner)).done (endStatus flow inner)
    match known with
    | "sh" | "dash" => shell .plain
    | "bash" => shell .rich
    | known =>
      match utilities.lookup known with
      | none => m.done 0
      | some run =>
        let starter : Starter := startProgram fuel
        let (flow, after) := run starter args (m.process name)
        let after := match after.refused with
          | none => after
          | some e =>
            { (writeComplaints known e).foldl Machine.warn after with status := writeErrorStatus known }
        match flow with
        | .killed signal => (.killed signal, m.resume after (128 + signal))
        | flow =>
          let status := endStatus flow after
          (m.resume after status).done status

/-- Runs a shell: a script given behind `-c`, one in a file, or one in the input. -/
def runShell : Nat → List String → Machine → Flow × Machine
  | 0, _, m => (.killed 0, m)
  | fuel + 1, args, m =>
    let plain : Bool := m.dialect = .plain
    let refuse (text : String) (status : Nat) : Flow × Machine :=
      if plain then { m with line := 0 }.refuse text 2 else
        (.exit status, m.complain (m.name ++ ": " ++ text ++ "\n"))
    match shellArguments (args.length + 1) args ⟨false, false, []⟩ m with
    | .error option =>
      refuse (if plain then "Illegal option " ++ option else option ++ ": invalid option") 2
    | .ok (found, m) =>
      if found.inline then
        match found.others with
        | [] => refuse (if plain then "-c requires an argument"
            else "-c: option requires an argument") 2
        | source :: rest =>
          let name := rest.head?.getD m.name
          runText fuel 1 "-c: " source.toList { m with
            name := name
            context := if plain then "" else name
            functionContext := "environment"
            arguments := rest.tail }
      else if found.others.isEmpty || found.fromInput then
        let text := m.input.toList
        runText fuel 1 "" text
          { m.drain with arguments := found.others, functionContext := "main" }
      else
        let path := found.others.head?.getD ""
        let content : Except SystemError ByteArray := match m.tree.read (pathOf path) with
          | .error .isDirectory => if plain then .ok ByteArray.empty else .error .isDirectory
          | result => result
        match content with
        | .error e =>
          if plain then refuse (openComplaint m false path e) 2
          else if e = .isDirectory then
            (.exit 126, m.complain (path ++ ": " ++ path ++ ": Is a directory\n"))
          else refuse (path ++ ": " ++ plainMessage e) 127
        | .ok bytes =>
          runText fuel 1 "" (textOfBytes bytes).toList { m with
            name := path
            context := if plain then "" else path
            functionContext := path
            arguments := found.others.tail }

/-- Runs a script that begins on a line.  The manner in which the script has been given is told in a
complaint about it. -/
def runText : Nat → Nat → String → List Char → Machine → Flow × Machine
  | 0, _, _, _, m => (.killed 0, m)
  | fuel + 1, line, manner, source, m =>
    let complain (problem : SyntaxError) (m : Machine) : Flow × Machine :=
      let m := { m with line := problem.line }
      match m.dialect with
      | .plain => m.refuse (m.placed ("Syntax error: " ++ problem.text)) 2
      | .rich =>
        let label := m.context ++ ": " ++ manner ++ "line " ++ toString problem.line ++ ": "
        let shown := ((String.ofList source).splitOn "\n")[problem.line - line]?
        let m := m.complain (label ++ problem.text ++ "\n")
        let m := if problem.text.startsWith "syntax error near" then
            m.complain (label ++ "\x60" ++ shown.getD "" ++ "'\n")
          else m
        if manner = "eval: " then m.done 1 else (.exit 2, m)
    runTokens fuel complain (tokensFrom m.dialect line source) m

/-- Runs the lines of a script one after another. -/
def runTokens : Nat → (SyntaxError → Machine → Flow × Machine) → Tokens → Machine →
    Flow × Machine
  | 0, _, _, m => (.killed 0, m)
  | fuel + 1, complain, tokens, m =>
    let tokens := skipLines tokens
    if atFinish tokens then (.next, m)
    else
      match readLine m.grammar (tokens.length + 1) tokens with
      | .error problem => complain problem m
      | .ok (command, rest) =>
        match run fuel command m with
        | (.next, m) => runTokens fuel complain rest m
        | other => other

/-- Ends a shell: what it was asked to do at its end is done now. -/
def finish : Nat → Flow × Machine → Flow × Machine
  | 0, (_, m) => (.killed 0, m)
  | fuel + 1, (flow, m) =>
    match flow with
    | .killed signal => (.killed signal, m)
    | flow =>
      let status := endStatus flow m
      match m.traps.lookup endSignal with
      | none => (.exit status, m)
      | some source =>
        let traps := m.traps.filter (·.1 ≠ endSignal)
        match runText fuel 1 "" source.toList { m with traps := traps, status := status } with
        | (.killed signal, m) => (.killed signal, m)
        | (.exit status, m) => (.exit status, m)
        | (_, m) => (.exit status, m)

/-- Runs the rounds of a loop.  `status` is the status of the last round. -/
def rounds : Nat → Bool → Command → Command → Nat → Machine → Flow × Machine
  | 0, _, _, _, _, m => (.killed 0, m)
  | fuel + 1, wanted, condition, body, status, m =>
    let next (m : Machine) : Flow × Machine := rounds fuel wanted condition body m.status m
    match ask m (run fuel condition) with
    | (.next, m) =>
      if (m.status == 0) == wanted then
        match run fuel body m with
        | (.next, m) | (.again 0, m) | (.again 1, m) => next m
        | (.leave n, m) => if n ≤ 1 then m.done 0 else (.leave (n - 1), m)
        | (.again n, m) => (.again (n - 1), m)
        | other => other
      else m.done status
    | (.again 0, m) | (.again 1, m) => next m
    | (.leave n, m) => if n ≤ 1 then m.done 0 else (.leave (n - 1), m)
    | (.again n, m) => (.again (n - 1), m)
    | other => other

/-- Runs a loop for each of some values. -/
def eachRound : Nat → String → List String → List String → Command → Machine → Flow × Machine
  | 0, _, _, _, _, m => (.killed 0, m)
  | _, _, _, [], _, m => (.next, m)
  | fuel + 1, name, all, value :: values, body, m =>
    let m := if m.dialect = .rich then
        m.traceLine ("for " ++ name ++ " in " ++ " ".intercalate (all.map tracedText))
      else m
    match m.change name value with
    | .error text => m.refuse (m.placed text) (if m.dialect = .plain then 2 else 1)
    | .ok m =>
      match run fuel body m with
      | (.next, m) | (.again 0, m) | (.again 1, m) => eachRound fuel name all values body m
      | (.leave n, m) => if n ≤ 1 then m.done 0 else (.leave (n - 1), m)
      | (.again n, m) => (.again (n - 1), m)
      | other => other

/-- Runs a loop while an expression is not zero. -/
def countedRound : Nat → List Char → List Char → Command → Machine → Flow × Machine
  | 0, _, _, _, m => (.killed 0, m)
  | fuel + 1, condition, step, body, m =>
    let next (m : Machine) : Flow × Machine :=
      match (computeExpression fuel step).run m with
      | (.error fault, m) => m.fail ("((: " ++ fault.text) 1
      | (.ok _, m) => countedRound fuel condition step body m
    match (computeExpression fuel condition).run m with
    | (.error fault, m) => m.fail ("((: " ++ fault.text) 1
    | (.ok 0, m) => (.next, m)
    | (.ok _, m) =>
      match run fuel body m with
      | (.next, m) | (.again 0, m) | (.again 1, m) => next m
      | (.leave n, m) => if n ≤ 1 then m.done 0 else (.leave (n - 1), m)
      | (.again n, m) => (.again (n - 1), m)
      | other => other

/-- Runs the first branch that has a matching pattern, and those that follow if it says so. -/
def firstMatch : Nat → String → List (List Word × Command × String) → Machine → Flow × Machine
  | 0, _, _, m => (.killed 0, m)
  | _, _, [], m => (.next, m)
  | fuel + 1, text, (patterns, body, ending) :: branches, m =>
    match (anyMatches fuel text patterns).run m with
    | (.error fault, m) => m.faulted fault
    | (.ok false, m) => firstMatch fuel text branches m
    | (.ok true, m) =>
      match run fuel body m with
      | (.next, m) =>
        match ending with
        | ";;&" => firstMatch fuel text branches m
        | ";&" => following fuel branches text m
        | _ => (.next, m)
      | other => other

/-- Runs the branches that follow without a look at their patterns. -/
def following : Nat → List (List Word × Command × String) → String → Machine → Flow × Machine
  | 0, _, _, m => (.killed 0, m)
  | _, [], _, m => (.next, m)
  | fuel + 1, (_, body, ending) :: branches, text, m =>
    match run fuel body m with
    | (.next, m) =>
      match ending with
      | ";&" => following fuel branches text m
      | ";;&" => firstMatch fuel text branches m
      | _ => (.next, m)
    | other => other

/-- Whether one of some patterns matches a text. -/
def anyMatches : Nat → String → List Word → Expansion Bool
  | 0, _, _ => pure false
  | _, _, [] => pure false
  | fuel + 1, text, pattern :: patterns => do
    let matchers ← expandPattern (collect fuel) expansionFuel (pattern.withHome (← get))
    if matchesAll matchers text.toList then return true
    anyMatches fuel text patterns

/-- Whether a condition between double brackets holds. -/
def testCondition : Nat → Condition → Expansion Bool
  | 0, _ => pure false
  | fuel + 1, condition => do
    match condition with
    | .negated condition => return !(← testCondition fuel condition)
    | .both first second =>
      if ← testCondition fuel first then testCondition fuel second else return false
    | .either first second =>
      if ← testCondition fuel first then return true else testCondition fuel second
    | .unary operator operand =>
      let text ← expandOne (collect fuel) operand
      modify fun m => m.traceLine ("[[ " ++ operator ++ " " ++ tracedText text ++ " ]]")
      return testOne (← get) operator text
    | .binary first operator second =>
      let a ← expandOne (collect fuel) first
      let shown ← expandOne (collect fuel) second
      modify fun m => m.traceLine
        ("[[ " ++ tracedText a ++ " " ++ operator ++ " " ++ tracedText shown ++ " ]]")
      let m ← get
      let compare (test : Int → Int → Bool) : Expansion Bool := do
        return test (← computeText a) (← computeText shown)
      match operator with
      | "=" | "==" | "!=" =>
        let pattern ← expandPattern (collect fuel) expansionFuel second
        return matchesAll pattern a.toList != (operator == "!=")
      | "=~" =>
        let fields ← expandPieces (collect fuel) expansionFuel second .single
        -- What is quoted stands for itself.
        let text := fields.only.flatMap fun (c, quoted) =>
          if quoted && !c.isAlphanum then ['\\', c] else [c]
        match Expression.ofString .ofConditions text with
        | .error _ => return false
        | .ok e =>
          let subject : Subject := ⟨a.toList.toArray, m.settings.contains "nocasematch", false⟩
          match e.find? subject 0 with
          | none =>
            set (m.put "BASH_REMATCH" (.list []))
            return false
          | some (start, state) =>
            let group (n : Nat) : String :=
              match state.groups.lookup n with
              | some (first, last) => String.ofList (subject.slice first last)
              | none => ""
            let texts := String.ofList (subject.slice start state.position) ::
              (List.range e.groupCount).map fun n => group (n + 1)
            set (m.put "BASH_REMATCH" (.list ((List.range texts.length).zip texts)))
            return true
      | "-eq" => compare fun a b => a == b
      | "-ne" => compare fun a b => a != b
      | "-lt" => compare fun a b => a < b
      | "-le" => compare fun a b => a ≤ b
      | "-gt" => compare fun a b => b < a
      | "-ge" => compare fun a b => b ≤ a
      | operator => orStop ((Tester.shell .rich).testTwo m a operator shown)

end

/-- How many steps deep a script may go; it also bounds the rounds of a loop. -/
def fuelLimit : Nat := 1000000

end SmellRefactor.Shell
