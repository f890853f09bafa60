import SmellRefactor.Shell.ByteText

/-!
# Signals

The signals with their names, and what a shell says of a program that one of them has ended.
-/

namespace SmellRefactor.Shell

/-- The signals in the order of their numbers, beginning with one: the name, and what is said of a
program that has been ended, if something is. -/
def signals : List (String × String) :=
  [("HUP", "Hangup"), ("INT", ""), ("QUIT", "Quit"), ("ILL", "Illegal instruction"),
    ("TRAP", "Trace/breakpoint trap"), ("ABRT", "Aborted"), ("BUS", "Bus error"),
    ("FPE", "Floating point exception"), ("KILL", "Killed"), ("USR1", "User defined signal 1"),
    ("SEGV", "Segmentation fault"), ("USR2", "User defined signal 2"), ("PIPE", ""),
    ("ALRM", "Alarm clock"), ("TERM", "Terminated"), ("STKFLT", "Stack fault"), ("CHLD", ""),
    ("CONT", ""), ("STOP", ""), ("TSTP", ""), ("TTIN", ""), ("TTOU", ""), ("URG", ""),
    ("XCPU", "CPU time limit exceeded"), ("XFSZ", "File size limit exceeded"),
    ("VTALRM", "Virtual timer expired"), ("PROF", "Profiling timer expired"), ("WINCH", ""),
    ("POLL", "I/O possible"), ("PWR", "Power failure"), ("SYS", "Bad system call")]

/-- The signals that end no program. -/
def harmlessSignals : List Nat := [17, 18, 23, 28]

/-- The signals that cannot be ignored. -/
def certainSignals : List Nat := [9, 19]

/-- The number under which a script is known that runs at the end. -/
def endSignal : Nat := 0

/-- The number under which a script is known that runs after a command has failed. -/
def failureSignal : Nat := 1000

/-- The name of a signal. -/
def signalName? (signal : Nat) : Option String :=
  if signal = 0 then some "EXIT" else (signals[signal - 1]?).map Prod.fst

/-- All signals in the order of their numbers, as they are listed: some have no name of their own,
and the last ones are named by their distance from the first and the last of them. -/
def signalList : List String :=
  let shown := signals.map fun entry =>
    if entry.1 = "STKFLT" then "16" else if entry.1 = "POLL" then "IO" else entry.1
  let up := (List.range 15).map fun n => "RTMIN+" ++ toString (n + 1)
  let down := ((List.range 14).map fun n => "RTMAX-" ++ toString (n + 1)).reverse
  "0" :: shown ++ ["32", "33", "RTMIN"] ++ up ++ down ++ ["RTMAX"]

/-- The number of a signal given by number or by name. -/
def signalNamed? (dialect : Dialect) (text : String) : Option Nat :=
  match text.toNat? with
  | some n => if n ≤ 64 then some n else none
  | none =>
    let upper := text.toUpper
    let name := if dialect = .rich && upper.startsWith "SIG" then (upper.drop 3).toString else upper
    if name = "EXIT" then some endSignal
    else if name = "ERR" && dialect = .rich then some failureSignal
    else (signals.findIdx? fun entry => entry.1 = name).map (· + 1)

/-- What a shell says when a signal has ended a program that it waited for. -/
def signalReport (signal : Nat) : String :=
  match signals[signal - 1]? with
  | some (_, "") | none => ""
  | some (_, text) => text ++ "\n"

end SmellRefactor.Shell
