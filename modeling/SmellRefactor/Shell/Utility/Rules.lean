import SmellRefactor.Shell.Utility.Rules.Running
import SmellRefactor.Shell.Utility.Starting

/-!
# The program of rules as a program

Reads the options, the program itself from an argument or from files, and runs it.
-/

namespace SmellRefactor.Shell

open Rules

/-! ## Options -/

/-- What the arguments say. -/
structure RuleOptions where
  separator : Option String
  settings : List (String × String)
  /-- The files from which the program is read. -/
  files : List String
  operands : List String

/-- Reads the options, which stand before all other arguments. -/
def ruleOptions : Nat → List String → Except String RuleOptions
  | 0, args => .ok ⟨none, [], [], args⟩
  | _, [] => .ok ⟨none, [], [], []⟩
  | fuel + 1, arg :: rest =>
    match arg.toList with
    | ['-', '-'] => .ok ⟨none, [], [], rest⟩
    | '-' :: letter :: value =>
      if !(['F', 'v', 'f', 'W'].contains letter) then .error ("not an option: " ++ arg)
      else
        let found : Option (String × List String) := match value, rest with
          | [], [] => none
          | [], value :: rest => some (value, rest)
          | value, rest => some (String.ofList value, rest)
        match found with
        | none => .error ("option -" ++ letter.toString ++ " lacks argument")
        | some (value, rest) => do
          if letter = 'v' && (setting? value).isNone then
            throw ("improper assignment: -v " ++ value)
          let o ← ruleOptions fuel rest
          return match letter with
            | 'F' => { o with separator := o.separator.or (some (Token.textOf value.toList)) }
            | 'v' => { o with settings := (setting? value).toList ++ o.settings }
            | 'f' => { o with files := value :: o.files }
            | _ => o
    | _ => .ok ⟨none, [], [], arg :: rest⟩

/-- What is said if there are no arguments at all. -/
def ruleUsage : String :=
  unlines ["Usage: mawk [Options] [Program] [file ...]", "", "Program:",
    "    The -f option value is the name of a file containing program text.",
    "    If no -f option is given, a \"--\" ends option processing; the following",
    "    parameters are the program text.", "", "Options:",
    "    -f program-file  Program  text is read from file instead of from the",
    "                     command-line.  Multiple -f options are accepted.",
    "    -F value         sets the field separator, FS, to value.",
    "    -v var=value     assigns value to program variable var.",
    "    --               unambiguous end of options.", "",
    "    Implementation-specific options are prefixed with \"-W\".  They can be",
    "    abbreviated:", "", "    -W version       show version information and exit.",
    "    -W compat        pre-POSIX 2001.",
    "    -W dump          show assembler-like listing of program and exit.",
    "    -W help          show this message and exit.",
    "    -W interactive   set unbuffered output, line-buffered input.",
    "    -W exec file     use file as program as well as last option.",
    "    -W posix         stricter POSIX checking.",
    "    -W random=number set initial random seed.",
    "    -W sprintf=number adjust size of sprintf buffer.",
    "    -W usage         show this message and exit."]

/-! ## The program -/

/-- Reads the parts of a program from files. -/
def ruleParts (files : List String) (m : Machine) :
    Except (String × SystemError) (List (Option String × String) × Machine) :=
  files.foldlM
    (fun (parts, m) path => match m.openInput path with
      | .ok (text, m) => .ok (parts ++ [(some path, text)], m)
      | .error e => .error (path, e)) ([], m)

/-- The state in which a program begins. -/
def ruleStart (m : Machine) (operands : List String) : State :=
  let texts : List (String × String) :=
    [("FS", " "), ("OFS", " "), ("ORS", "\n"), ("RS", "\n"), ("SUBSEP", "\x1c"),
      ("CONVFMT", "%.6g"), ("OFMT", "%.6g"), ("FILENAME", "")]
  let numbers : List (String × Int) :=
    [("NR", 0), ("FNR", 0), ("NF", 0), ("RSTART", 0), ("RLENGTH", -1),
      ("ARGC", operands.length + 1)]
  let args := (m.name :: operands).zipIdx.map fun (arg, i) => (Key.number i, arg)
  let environment := (environmentOf m).map fun (name, text) => (Key.text name, text)
  let tableOf (entries : List (Key × String)) : Table :=
    entries.foldl (fun t (key, text) => t.put key (.input text)) .empty
  { machine := m
    shared := Std.HashMap.ofList
      (texts.map (fun (name, text) => (name, Cell.value (.text text))) ++
        numbers.map (fun (name, n) => (name, Cell.value (.number (.ofInt n)))) ++
        [("ARGV", Cell.table 0), ("ENVIRON", Cell.table 1)])
    own := #[], aside := 0, tables := #[tableOf args, tableOf environment], record := "", fields := #[]
    fieldSeparator := .blanks, recordSeparator := .character '\n', printed := [], outlets := []
    inlets := [], main := none, argument := 1, hasFiles := false, begun := [], seed := 0
    status := 0 }

/-- Runs a program with settings of variables. -/
def runRuleProgram (start : Starter) (p : Program) (settings : List (String × String)) : Act Unit := do
  for (name, value) in settings do
    Act.assign (.shared name) (.input value)
  Act.run ⟨start, p.functions⟩ p

/-- Works on records by the rules of a program. -/
def awk : Utility := fun start args m =>
  let complain (m : Machine) (text : String) : Machine := m.complain (m.name ++ ": " ++ text ++ "\n")
  if args.isEmpty then (m.complain ruleUsage).done 0
  else if args.head? = some "--version" || args.head? = some "--help" then m.done 0
  else match ruleOptions args.length args with
  | .error text => (complain m text).done 2
  | .ok o =>
    match ruleParts o.files m with
    | .error (path, e) =>
      (complain m ("cannot open \"" ++ path ++ "\" (" ++ plainMessage e ++ ")")).done 2
    | .ok (parts, m) =>
      let (parts, operands) := match parts, o.operands with
        | [], text :: operands => ([(none, text)], operands)
        | parts, operands => (parts, operands)
      match readProgram parts with
      | .error (problem, place) => ((problem.lines place).foldl complain m).done 2
      | .ok ⟨[], _⟩ => m.done 0
      | .ok p =>
        let settings := (o.separator.map fun text => ("FS", text)).toList ++ o.settings
        match ExceptT.run (runRuleProgram start p settings) (ruleStart m operands) with
        | (.ok (), s) => s.machine.done s.status
        | (.error (.killed signal), s) =>
          (.killed signal, s.machine.print 1 (String.join s.printed.reverse))
        | (.error (.failed text), s) =>
          let m := complain s.machine text
          (m.print 1 (String.join s.printed.reverse)).done 2
        | (.error _, s) => (s.machine.print 1 (String.join s.printed.reverse)).done s.status

end SmellRefactor.Shell
