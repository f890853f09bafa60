import SmellRefactor.Shell.Machine
import SmellRefactor.Shell.Parameter

/-!
# Traces of commands

A shell that is asked for it shows each command before it runs it.
-/

namespace SmellRefactor.Shell

/-- A text as the rich shell shows it in a trace. -/
def tracedText (text : String) : String :=
  if text.isEmpty then "''"
  else if needsEscapes text then inEscapes text
  else if text.toList.all fun c => isHarmless c && c ≠ '^' || "[]\x7b\x7d~".toList.contains c then
    text
  else inApostrophes text

namespace Machine

/-- What stands before a command in a trace; the rich shell repeats its first character for every
shell that collects output. -/
def traceMark (m : Machine) : String :=
  let mark := (m.get? "PS4").getD "+ "
  match m.dialect, mark.toList with
  | .rich, c :: rest => String.ofList (List.replicate (m.depth + 1) c ++ rest)
  | _, _ => mark

/-- Shows a line, if commands are to be shown. -/
def traceLine (m : Machine) (line : String) : Machine :=
  if m.has 'x' then m.complain (m.traceMark ++ line ++ "\n") else m

/-- Shows a simple command: what it sets, and its words. -/
def trace (m : Machine) (settings : List (String × String)) (words : List String) : Machine :=
  match m.dialect with
  | .plain =>
    let shown := settings.map fun s => s.1 ++ "=" ++ s.2
    m.traceLine (" ".intercalate (shown ++ words))
  | .rich =>
    let m := settings.foldl (fun m s => m.traceLine (s.1 ++ "=" ++ tracedText s.2)) m
    if words.isEmpty then m else m.traceLine (" ".intercalate (words.map tracedText))

end Machine

end SmellRefactor.Shell
