import SmellRefactor.Shell.Builtin.Naming
import SmellRefactor.Shell.Permission

/-!
# Commands about the current directory and new files

Where relative paths begin, and which permissions new files do not get.
-/

namespace SmellRefactor.Shell

/-- Makes another directory the current one. -/
def cd : Builtin :=
  withOptions "cd" ['L', 'P', 'e', '@'] "cd [-L|[-P [-e]] [-@]] [dir]" false fun _ args m =>
    let enter (path : String) (shown : Bool) : Flow × Machine :=
      if path.isEmpty then m.done 0
      else match m.tree.changeDirectory (pathOf path) with
      | .ok tree =>
        let old := m.directory
        let m := { m with tree := tree }
        let m := (m.set "OLDPWD" old).set "PWD" m.directory
        (if shown then m.print 1 (m.directory ++ "\n") else m).done 0
      | .error e =>
        match m.dialect with
        | .plain => m.fail ("cd: can't cd to " ++ path) 2
        | .rich => m.fail ("cd: " ++ path ++ ": " ++ plainMessage e) 1
    match args with
    | [] =>
      match m.get? "HOME" with
      | some home => enter home false
      | none => if m.dialect = .plain then m.done 0 else m.fail "cd: HOME not set" 1
    | ["-"] =>
      match m.get? "OLDPWD" with
      | some old => enter old true
      | none =>
        if m.dialect = .plain then (m.print 1 (m.directory ++ "\n")).done 0
        else m.fail "cd: OLDPWD not set" 1
    | path :: rest =>
      if m.dialect = .rich && !rest.isEmpty then m.fail "cd: too many arguments" 1
      else enter path false

/-- Writes the path of the current directory. -/
def pwd : Builtin :=
  withOptions "pwd" ['L', 'P'] "pwd [-LP]" false fun _ _ m =>
    (m.print 1 (m.directory ++ "\n")).done 0

/-- Shows or sets the permissions that new files do not get. -/
def umask : Builtin := fun args m =>
  let known := if m.dialect = .plain then ['S'] else ['S', 'p']
  let (symbolic, rest) := match args with
    | "-S" :: rest => (true, rest)
    | rest => (false, rest)
  match rest with
  | [] =>
    let text := if symbolic then symbolicText (0o777 &&& (0o777 ^^^ m.mask))
      else octalText 4 m.mask
    (m.print 1 (text ++ "\n")).done 0
  | text :: _ =>
    match text.toList with
    | '-' :: c :: _ =>
      if known.contains c then
        (m.print 1 ("umask " ++ octalText 4 m.mask ++ "\n")).done 0
      else badOption "umask" c "umask [-p] [-S] [mode]" m
    | first :: _ =>
      if first.isDigit then
        match octal? text with
        | some n => ({ m with mask := n &&& 0o777 }).done 0
        | none =>
          if m.dialect = .plain then m.fail ("umask: Illegal number: " ++ text) 2
          else m.fail ("umask: " ++ text ++ ": octal number out of range") 1
      else
        let isNobody := m.dialect = .plain && text.toList.all fun c => (whoBits? c).isSome
        match if isNobody then some (0o777 &&& (0o777 ^^^ m.mask))
          else changedMode? false 0 text (0o777 &&& (0o777 ^^^ m.mask)) with
        | some mode => ({ m with mask := 0o777 &&& (0o777 ^^^ mode) }).done 0
        | none =>
          if m.dialect = .plain then m.fail ("umask: Illegal mode: " ++ text) 2
          else m.fail ("umask: \x60" ++ first.toString ++ "': invalid symbolic mode operator") 1
    | [] => m.done 0

end SmellRefactor.Shell
