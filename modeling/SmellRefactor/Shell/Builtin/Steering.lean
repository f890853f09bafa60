import SmellRefactor.Shell.Builtin.Naming
import SmellRefactor.Shell.Signal

/-!
# Commands that steer a script

Leaving scripts, functions and loops, switching options, and sending and awaiting signals.
-/

namespace SmellRefactor.Shell

/-- A command that always ends with one status. -/
def constant (status : Nat) : Builtin := fun _ m => m.done status

/-- Sends a signal to the shell itself. -/
def kill : Builtin := fun args m =>
  let plain : Bool := m.dialect = .plain
  let usage : Flow × Machine :=
    if plain then
      m.fail ("kill: Usage: kill [-s sigspec | -signum | -sigspec] [pid | job]... or\n" ++
        "kill -l [exitstatus]") 2
    else
      (m.complain ("kill: usage: kill [-s sigspec | -n signum | -sigspec] pid | jobspec ... or " ++
        "kill -l [sigspec]\n")).done 2
  let sendTo (signal : Nat) (target : String) (m : Machine) : Flow × Machine :=
    match target.toNat? with
    | none =>
      if target.startsWith "%" then
        if plain then m.fail ("kill: No such job: " ++ target) 2
        else m.fail ("kill: " ++ target ++ ": no such job") 1
      else if plain then m.fail ("kill: Illegal number: " ++ target) 2
      else m.fail ("kill: " ++ target ++ ": arguments must be process or job IDs") 1
    | some number =>
      if number = m.number then
        if signal = 0 then m.done 0 else (.killed signal, { m with status := 0 })
      else if some number = m.beside.map (fun _ => m.number + 1) then
        m.done 0
      else if plain then m.fail "kill: No such process\n" 1
      else m.fail ("kill: (" ++ target ++ ") - No such process") 1
  let send (signal : Nat) (targets : List String) : Flow × Machine :=
    if targets.isEmpty then usage
    else targets.foldl
      (fun state target => match state with
        | (.next, m) => sendTo signal target m
        | stopped => stopped) (.next, m)
  let named (name : String) (targets : List String) : Flow × Machine :=
    match signalNamed? m.dialect name with
    | some signal => send signal targets
    | none =>
      if plain then m.fail ("kill: invalid signal number or name: " ++ name) 2
      else m.fail ("kill: " ++ name ++ ": invalid signal specification") 1
  match args with
  | [] => usage
  | ["-l"] => (m.print 1 (String.join (signalList.map (· ++ "\n")))).done 0
  | "-l" :: text :: _ =>
    match text.toNat? with
    | some n =>
      match signalName? (if 128 < n then n - 128 else n) with
      | some name => (m.print 1 (name ++ "\n")).done 0
      | none =>
        if plain then m.fail ("kill: invalid signal number or exit status: " ++ text) 2
        else m.fail ("kill: " ++ text ++ ": invalid signal specification") 1
    | none =>
      if plain then m.fail ("kill: Illegal number: " ++ text) 2
      else match signalNamed? m.dialect text with
      | some n => (m.print 1 (toString n ++ "\n")).done 0
      | none => m.fail ("kill: " ++ text ++ ": invalid signal specification") 1
  | "-s" :: name :: targets | "-n" :: name :: targets => named name targets
  | "--" :: targets => send 15 targets
  | first :: targets =>
    match first.toList with
    | '-' :: name =>
      match signalNamed? m.dialect (String.ofList name) with
      | some signal => send signal targets
      | none =>
        if plain then m.fail ("kill: Illegal option -" ++ String.ofList (name.take 1)) 2
        else m.fail ("kill: " ++ String.ofList name ++ ": invalid signal specification") 1
    | _ => send 15 args

/-- The largest number that an argument may have. -/
def numberLimit : Nat := 2147483647

/-- The number of an argument. -/
def number? (text : String) : Option Nat := text.toNat?.filter (· ≤ numberLimit)

/-- What is said about an argument that should be a number. -/
def noNumber (m : Machine) (command arg : String) : String :=
  match m.dialect with
  | .plain => command ++ ": Illegal number: " ++ arg
  | .rich => command ++ ": " ++ arg ++ ": numeric argument required"

/-- Ends the script. -/
def exit : Builtin := fun args m =>
  match m.dialect, args with
  | _, [] => (.exit m.status, m)
  | .plain, arg :: _ =>
    match number? arg with
    | some n => (.exit (n % 256), m)
    | none => m.refuse (noNumber m "exit" arg) 2
  | .rich, arg :: rest =>
    match wholeNumber? arg with
    | some n =>
      if rest.isEmpty then (.exit (n % 256).toNat, m) else m.fail "exit: too many arguments" 1
    | none => m.refuse (noNumber m "exit" arg) 2

/-- Ends the function that runs. -/
def returnStatus : Builtin := fun args m =>
  let leave : Flow × Machine :=
    match m.dialect, args with
    | _, [] => (.returned m.status, m)
    | .plain, arg :: _ =>
      match number? arg with
      | some n => (.returned n, m)
      | none => m.refuse (noNumber m "return" arg) 2
    | .rich, arg :: _ =>
      match wholeNumber? arg with
      | some n => (.returned (n % 256).toNat, m)
      | none => (.returned 2, (m.fail (noNumber m "return" arg) 2).2)
  if m.dialect = .rich && m.locals.isNone && m.context = m.name then
    m.fail "return: can only \x60return' from a function or sourced script" 2
  else leave

/-- Leaves loops, or goes on with their next rounds. -/
def leaveLoops (command : String) (flow : Nat → Flow) : Builtin := fun args m =>
  let inside (n : Nat) : Flow × Machine :=
    if m.loops = 0 then m.done 0 else (flow (min n m.loops), { m with status := 0 })
  match m.dialect, args with
  | .rich, args =>
    if m.loops = 0 then
      m.fail (command ++ ": only meaningful in a \x60for', \x60while', or \x60until' loop") 0
    else match args with
    | [] => inside 1
    | arg :: _ =>
      match wholeNumber? arg with
      | none => m.refuse (noNumber m command arg) 128
      | some n =>
        if 0 < n then inside n.toNat
        else (.leave m.loops, (m.fail (command ++ ": " ++ arg ++ ": loop count out of range") 1).2)
  | .plain, [] => inside 1
  | .plain, arg :: _ =>
    match number? arg with
    | some n =>
      if n = 0 then m.refuse (noNumber m command arg) 2 else inside n
    | none => m.refuse (noNumber m command arg) 2

/-- Drops the first arguments. -/
def shift : Builtin := fun args m =>
  let arg := args.head?.getD "1"
  match m.dialect, wholeNumber? arg with
  | .plain, _ =>
    match number? arg with
    | none => m.refuse (noNumber m "shift" arg) 2
    | some n =>
      if m.arguments.length < n then m.refuse "shift: can't shift that many" 2
      else ({ m with arguments := m.arguments.drop n }).done 0
  | .rich, none => m.fail (noNumber m "shift" arg) 1
  | .rich, some n =>
    if n < 0 then m.fail ("shift: " ++ arg ++ ": shift count out of range") 1
    else if m.arguments.length < n.toNat then m.done 1
    else ({ m with arguments := m.arguments.drop n.toNat }).done 0

/-! ## Options -/

/-- The options of a dialect by their long names, in the order in which they are listed.  Those
without a letter have none in their place. -/
def optionNames : Dialect → List (String × Option Char)
  | .plain =>
    [("errexit", some 'e'), ("noglob", some 'f'), ("ignoreeof", some 'I'),
      ("interactive", some 'i'), ("monitor", some 'm'), ("noexec", some 'n'), ("stdin", some 's'),
      ("xtrace", some 'x'), ("verbose", some 'v'), ("vi", some 'V'), ("emacs", some 'E'),
      ("noclobber", some 'C'), ("allexport", some 'a'), ("notify", some 'b'),
      ("nounset", some 'u'), ("nolog", none), ("debug", none)]
  | .rich =>
    [("allexport", some 'a'), ("braceexpand", some 'B'), ("emacs", none), ("errexit", some 'e'),
      ("errtrace", some 'E'), ("functrace", some 'T'), ("hashall", some 'h'),
      ("histexpand", some 'H'), ("history", none), ("ignoreeof", none),
      ("interactive-comments", none), ("keyword", some 'k'), ("monitor", some 'm'),
      ("noclobber", some 'C'), ("noexec", some 'n'), ("noglob", some 'f'), ("nolog", none),
      ("notify", some 'b'), ("nounset", some 'u'), ("onecmd", some 't'), ("physical", some 'P'),
      ("pipefail", none), ("posix", none), ("privileged", some 'p'), ("verbose", some 'v'),
      ("vi", none), ("xtrace", some 'x')]

namespace Machine

/-- Switches an option that has a letter. -/
def switch (m : Machine) (on : Bool) (letter : Char) : Machine :=
  let others := m.options.filter (· ≠ letter)
  { m with options := if on then letter :: others else others }

/-- Switches a setting, which has no letter. -/
def switchSetting (m : Machine) (on : Bool) (name : String) : Machine :=
  let others := m.settings.filter (· ≠ name)
  { m with settings := if on then name :: others else others }

/-- Whether an option of the table is switched on. -/
def isOn (m : Machine) (option : String × Option Char) : Bool :=
  match option.2 with
  | some letter => m.has letter
  | none => m.settings.contains option.1

end Machine

/-- Lists the options: in words, or as commands that set them. -/
def listOptions (asCommands : Bool) (m : Machine) : Machine :=
  let names := optionNames m.dialect
  let padded (name : String) : String :=
    String.ofList (name.toList ++ List.replicate (16 - name.length) ' ')
  if asCommands then
    m.print 1 (String.join (names.map fun option =>
      "set " ++ (if m.isOn option then "-o " else "+o ") ++ option.1 ++ "\n"))
  else
    let title := if m.dialect = .plain then "Current option settings\n" else ""
    m.print 1 (title ++ String.join (names.map fun option =>
      padded option.1 ++ (if m.isOn option then "on\n" else "off\n")))

/-- Switches options on or off, and gives the arguments that are no options, if there are some.  The
error is the option that does not exist. -/
def switchOptions : List String → Machine → Except String (Option (List String) × Machine)
  | [], m => .ok (none, m)
  | arg :: rest, m =>
    match arg.toList with
    | ['-', '-'] => .ok (some rest, m)
    | ['-'] => .ok (if rest.isEmpty then none else some rest, (m.switch false 'x').switch false 'v')
    | sign :: letter :: letters =>
      let on : Bool := sign = '-'
      let letters := letter :: letters
      if !on && sign ≠ '+' then .ok (some (arg :: rest), m)
      else do
        let m ← (letters.filter (· ≠ 'o')).foldlM (turn sign) m
        if letters.contains 'o' then
          match rest with
          | name :: rest => do switchOptions rest (← turnNamed on m name)
          | [] => .ok (none, listOptions (!on) m)
        else switchOptions rest m
    | _ => .ok (some (arg :: rest), m)
where
  /-- Switches one option by its letter. -/
  turn (sign : Char) (m : Machine) (letter : Char) : Except String Machine :=
    if (optionNames m.dialect).any (·.2 = some letter) && letter ≠ 's' && letter ≠ 'i' then
      .ok (m.switch (sign = '-') letter)
    else .error (String.ofList ['-', letter])
  /-- Switches one option by its name. -/
  turnNamed (on : Bool) (m : Machine) (name : String) : Except String Machine :=
    match (optionNames m.dialect).lookup name with
    | some (some letter) => .ok (m.switch on letter)
    | some none => .ok (m.switchSetting on name)
    | none => .error ("-o " ++ name)

/-- Switches options, or replaces the arguments. -/
def setArguments : Builtin := fun args m =>
  if args.isEmpty then
    let shown := listing (m.bindings.map Prod.fst) fun name =>
      name ++ "=" ++ match m.dialect with
        | .plain => quotedPlainly ((m.get? name).getD "")
        | .rich => (m.get? name).getD ""
    (m.print 1 shown).done 0
  else match switchOptions args m with
  | .error option =>
    match m.dialect with
    | .plain => m.refuse ("set: Illegal option " ++ option) 2
    | .rich =>
      if option.startsWith "-o " then
        m.fail ("set: " ++ (option.drop 3).toString ++ ": invalid option name") 2
      else badOption "set" ((option.toList[1]?).getD '-')
        "set [-abefhkmnptuvxBCEHPT] [-o option-name] [--] [-] [arg ...]" m
  | .ok (none, m) => m.done 0
  | .ok (some arguments, m) => ({ m with arguments := arguments }).done 0

/-- The settings that the rich shell has besides its options, as far as they matter. -/
def shellSettings : List String :=
  ["nullglob", "failglob", "dotglob", "nocaseglob", "nocasematch", "extglob", "globstar",
    "expand_aliases", "lastpipe", "inherit_errexit", "xpg_echo", "sourcepath", "checkwinsize",
    "patsub_replacement", "extquote", "execfail", "shift_verbose"]

/-- Switches settings of the rich shell. -/
def shopt : Builtin := fun args m =>
  let (letters, names) := leadingOptions args
  let has (c : Char) : Bool := letters.contains c
  let one (name : String) (m : Machine) : Except (Flow × Machine) Machine :=
    if has 'o' then
      match switchOptions [if has 's' then "-o" else "+o", name] m with
      | .ok (_, m) => .ok m
      | .error _ => .error (m.fail ("shopt: " ++ name ++ ": invalid option name") 1)
    else if !shellSettings.contains name then
      .error (m.fail ("shopt: " ++ name ++ ": invalid shell option name") 1)
    else if has 's' then .ok (m.switchSetting true name)
    else if has 'u' then .ok (m.switchSetting false name)
    else if m.settings.contains name then
      .ok (if has 'q' then m else m.print 1 (name ++ "\ton\n"))
    else .error ((if has 'q' then m else m.print 1 (name ++ "\toff\n")).done 1)
  forEach one names { m with status := 0 }

/-! ## Signals -/

/-- Chooses what is done when a signal arrives or the script ends. -/
def trap : Builtin := fun args m =>
  let plain : Bool := m.dialect = .plain
  let unknown (name : String) (m : Machine) : Flow × Machine :=
    if plain then (m.complain ("trap: " ++ name ++ ": bad trap\n")).done 1
    else m.fail ("trap: " ++ name ++ ": invalid signal specification") 1
  let one (action : Option String) (name : String) (m : Machine) :
      Except (Flow × Machine) Machine :=
    match signalNamed? m.dialect name with
    | none => .error (unknown name m)
    | some signal =>
      let others := m.traps.filter (·.1 ≠ signal)
      .ok { m with traps := match action with
        | some source => (signal, source) :: others
        | none => others }
  let shown (signal : Nat) (source : String) : String :=
    let name := if signal = failureSignal then "ERR" else (signalName? signal).getD ""
    "trap -- " ++ quotedPlainly source ++ " " ++
      (if plain || signal = endSignal || signal = failureSignal then "" else "SIG") ++ name ++ "\n"
  let list (m : Machine) : Flow × Machine :=
    let sorted := m.traps.mergeSort fun a b => decide (a.1 ≤ b.1)
    (m.print 1 (String.join (sorted.map fun entry => shown entry.1 entry.2))).done 0
  let args := if args.head? = some "--" then args.tail else args
  match args with
  | [] | ["-p"] => list m
  | first :: rest =>
    match first.toList with
    | '-' :: c :: _ =>
      if plain then m.refuse ("trap: Illegal option -" ++ c.toString) 2
      else if c = 'l' then m.done 0
      else badOption "trap" c "trap [-lp] [[arg] signal_spec ...]" m
    | _ =>
      let m := { m with status := 0 }
      if first = "-" then forEach (one none) rest m
      else if rest.isEmpty then
        if (signalNamed? m.dialect first).isSome || plain then forEach (one none) [first] m
        else (m.complain "trap: usage: trap [-lp] [[arg] signal_spec ...]\n").done 2
      else if first.toNat?.isSome && (signalNamed? m.dialect first).isSome then
        forEach (one none) args m
      else forEach (one (some first)) rest m

/-- Waits for what runs beside the script, which here has always ended already. -/
def wait : Builtin := fun args m =>
  let plain : Bool := m.dialect = .plain
  match args with
  | [] => m.done 0
  | arg :: _ =>
    match arg.toList with
    | '-' :: c :: _ =>
      if !plain && c = 'n' then m.done (m.beside.getD 127)
      else badOption "wait" c "wait [-fn] [-p var] [id ...]" m
    | '%' :: _ =>
      match m.beside with
      | some status => m.done status
      | none =>
        if plain then m.fail ("wait: No such job: " ++ arg) 2
        else m.fail ("wait: " ++ arg ++ ": no such job") 127
    | _ =>
      match arg.toNat? with
      | none =>
        if plain then m.fail ("wait: Illegal number: " ++ arg) 2
        else m.fail ("wait: \x60" ++ arg ++ "': not a pid or valid job spec") 1
      | some n =>
        match m.beside.filter fun _ => n = m.number + 1 with
        | some status => m.done status
        | none =>
          if plain then m.done 127
          else m.fail ("wait: pid " ++ arg ++ " is not a child of this shell") 127

/-- Lists the commands that run beside the script, of which none is left. -/
def jobs : Builtin :=
  withOptions "jobs" ['l', 'p', 'n', 'r', 's']
    "jobs [-lnprs] [jobspec ...] or jobs -x command [args]" false fun _ _ m => m.done 0

/-- Goes on with a command that was stopped, of which there is none. -/
def resumeJob (command : String) : Builtin := fun args m =>
  match m.dialect, args with
  | .rich, _ => m.fail (command ++ ": no job control") 1
  | .plain, [] => m.fail (command ++ ": No current job") 2
  | .plain, arg :: _ => m.fail (command ++ ": No such job: " ++ arg) 2

/-- Writes how much time has been used. -/
def times : Builtin := fun _ m =>
  let line := if m.dialect = .plain then "0m0.000000s 0m0.000000s\n" else "0m0.000s 0m0.000s\n"
  (m.print 1 (line ++ line)).done 0

/-- Shows or sets what programs may use of the system, which is never bounded here. -/
def ulimit : Builtin := fun args m =>
  let (letters, rest) := leadingOptions args
  let known := "HSatfdscmlpnvwr".toList
  match letters.find? fun c => !known.contains c with
  | some c => badOption "ulimit" c "ulimit [-SHabcdefiklmnpqrstuvxPRT] [limit]" m
  | none =>
    match rest with
    | [] => (m.print 1 "unlimited\n").done 0
    | limit :: _ =>
      if limit = "unlimited" || limit.toNat?.isSome then m.done 0
      else if m.dialect = .plain then m.fail "ulimit: bad number" 2
      else m.fail ("ulimit: " ++ limit ++ ": invalid number") 1

end SmellRefactor.Shell
