import SmellRefactor.Shell.Builtin.Condition
import SmellRefactor.Shell.Builtin.Steering
import SmellRefactor.Shell.Utility.Columns
import SmellRefactor.Shell.Utility.Comparing
import SmellRefactor.Shell.Utility.Computing
import SmellRefactor.Shell.Utility.Dumping
import SmellRefactor.Shell.Utility.Editor
import SmellRefactor.Shell.Utility.Filters
import SmellRefactor.Shell.Utility.Finding
import SmellRefactor.Shell.Utility.Joining
import SmellRefactor.Shell.Utility.Rules
import SmellRefactor.Shell.Utility.Searching
import SmellRefactor.Shell.Utility.Sorting
import SmellRefactor.Shell.Utility.Spacing
import SmellRefactor.Shell.Utility.Splitting
import SmellRefactor.Shell.Utility.Starting
import SmellRefactor.Shell.Utility.Summing

/-!
# Programs of their own

The table of the programs that can be started.
-/

namespace SmellRefactor.Shell

/-- A program that starts no others. -/
def alone (run : Builtin) : Utility := fun _ => run

/-- The programs that start no others, by their names. -/
def plainUtilities : List (String × Builtin) :=
  [("true", constant 0), ("false", constant 1), ("echo", echoProgram), ("printf", printfProgram),
    ("test", testProgram "test"), ("[", testProgram "["), ("basename", basename),
    ("dirname", dirname), ("readlink", readlink), ("realpath", realpath), ("pwd", pwdProgram),
    ("cat", cat), ("tee", tee), ("head", head), ("tail", tail), ("wc", wc), ("tac", tac),
    ("rev", rev), ("nl", nl), ("fold", fold), ("paste", paste), ("yes", yes),
    ("cut", cut), ("tr", tr), ("sort", sort), ("uniq", uniq), ("comm", comm),
    ("cp", cp), ("mv", mv), ("ln", ln), ("rm", rm), ("rmdir", rmdir), ("unlink", unlink),
    ("mkdir", mkdir), ("touch", touch), ("truncate", truncate), ("chmod", chmod),
    ("install", install), ("mktemp", mktemp), ("ls", ls), ("stat", stat), ("cmp", cmp),
    ("grep", grep), ("egrep", egrep), ("fgrep", fgrep), ("diff", diff), ("expr", expr),
    ("seq", seq), ("sleep", sleep), ("sync", sync), ("printenv", printenv),
    ("kill", killProgram), ("id", id), ("whoami", saying "root"), ("uname", uname),
    ("arch", saying "x86_64"), ("which", which), ("tty", tty), ("groups", saying "root"), ("od", od),
    ("base64", base64), ("expand", expand), ("unexpand", unexpand), ("join", join), ("split", split),
    ("dd", dd), ("cksum", cksum), ("sum", sumProgram)] ++
    DigestKind.all.map fun (name, kind) => (name, digestProgram kind)

/-- The programs that can be started, by their names. -/
def utilities : List (String × Utility) :=
  [("sed", sed), ("awk", awk), ("mawk", awk), ("find", find), ("xargs", xargs), ("env", env),
    ("timeout", timeout), ("nohup", nohup), ("nice", nice)] ++
    plainUtilities.map fun (name, run) => (name, alone run)

/-! ## Outputs that refuse what is written -/

/-- What a program says if its output cannot be written. -/
def writeComplaints (known : String) (e : SystemError) : List String :=
  let closed : Bool := e = .badDescriptor
  let reason := plainMessage e
  match known with
  | "cat" => [(if closed then "standard output: " else "write error: ") ++ reason]
  | "sed" => [(if closed then "couldn't close stdout: " else "couldn't flush stdout: ") ++ reason]
  | "sort" => ["fflush failed: 'standard output': " ++ reason, "write error"]
  | "wc" => [if closed then "write error: " ++ reason else "write error"]
  | "tee" => ["'standard output': " ++ reason]
  | "awk" | "mawk" => ["close failed on file \"/dev/stdout\" (" ++ reason ++ ")"]
  | "diff" | "yes" => ["standard output: " ++ reason]
  | "find" =>
    ["'standard output': " ++ reason, if closed then "write error: " ++ reason else "write error"]
  | _ => ["write error: " ++ reason]

/-- The status with which a program ends if its output cannot be written. -/
def writeErrorStatus (known : String) : Nat :=
  ([("grep", 2), ("ls", 2), ("sort", 2), ("diff", 2), ("sed", 4), ("expr", 3), ("awk", 2),
    ("mawk", 2), ("printenv", 2), ("env", 125)].lookup known).getD 1

end SmellRefactor.Shell
