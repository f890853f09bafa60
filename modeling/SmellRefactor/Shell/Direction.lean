import SmellRefactor.Shell.Expansion

/-!
# Directing inputs and outputs

What the redirections of a command do to the descriptors of the shell, and how that is undone.
-/

namespace SmellRefactor.Shell

/-- What is said about a file that cannot be opened. -/
def openComplaint (m : Machine) (writing : Bool) (target : String) (e : SystemError) : String :=
  match m.dialect with
  | .plain =>
    let missing : Bool := e = .notFound || e = .notDirectory
    let reason := if !missing then plainMessage e
      else if writing then "Directory nonexistent" else "No such file"
    (if writing then "cannot create " else "cannot open ") ++ target ++ ": " ++ reason
  | .rich => target ++ ": " ++ plainMessage e

/-- The number of the descriptor that a path stands for. -/
def descriptorAt? (path : String) : Option Nat :=
  match [("/dev/stdin", 0), ("/dev/stdout", 1), ("/dev/stderr", 2)].lookup path with
  | some n => some n
  | none =>
    if path.startsWith "/dev/fd/" then ((path.drop 8).toString.toNat?).filter (· < 10) else none

/-- Makes a descriptor lead to a file. -/
def openFor (m : Machine) (r : Redirect) (target : String) : Except String Machine :=
  let writing := r.operator ≠ "<"
  let exists_ := match m.tree.lookup (pathOf target) with
    | .ok (_, .file _ _) => true
    | _ => false
  match descriptorAt? target with
  | some n =>
    match m.channel? n with
    | some channel => .ok (m.direct r.descriptor channel)
    | none => .error (openComplaint m writing target .notFound)
  | none =>
    if r.operator = "<" || (r.operator = "<>" && r.descriptor = 0) then
      match m.tree.read (pathOf target) with
      | .ok bytes => .ok (m.feed r.descriptor ⟨textOfBytes bytes, true⟩)
      | .error .isDirectory =>
        .ok (((m.standing target).map fun entry => m.direct r.descriptor (.file entry.1)).getD m)
      | .error e =>
        match if r.operator = "<>" then (m.openOutput target true).toOption else none with
        | some (_, m) => .ok (m.feed r.descriptor ⟨"", true⟩)
        | none => .error (openComplaint m false target e)
    else if r.operator = ">" && m.has 'C' && exists_ then
      .error (match m.dialect with
        | .plain => "cannot create " ++ target ++ ": File exists"
        | .rich => target ++ ": cannot overwrite existing file")
    else match m.openOutput target (r.operator = ">>" || r.operator = "<>") with
    | .ok (some channel, m) => .ok (m.direct r.descriptor channel)
    | .ok (none, m) => .ok (m.close r.descriptor)
    | .error e => .error (openComplaint m true target e)

/-- Makes a descriptor lead where another one does. -/
def copyFor (m : Machine) (r : Redirect) (target : String) : Except String Machine :=
  if target = "-" then .ok (m.close r.descriptor)
  else
    let moved := target.endsWith "-"
    let number := if moved then (target.dropEnd 1).toString else target
    match number.toNat? with
    | some n =>
      match m.channel? n with
      | some channel =>
        let m := m.direct r.descriptor channel
        .ok (if moved then m.close n else m)
      | none => .error (number ++ ": Bad file descriptor")
    | none =>
      if m.dialect = .rich && r.operator = ">&" && r.descriptor = 1 then do
        let m ← openFor m { r with operator := ">" } target
        return match m.channel? 1 with
          | some channel => m.direct 2 channel
          | none => m
      else if m.dialect = .rich then .error (target ++ ": ambiguous redirect")
      else .error "Bad fd number"

/-- Follows one redirection; what is given back is a complaint if that cannot be done. -/
def followOne (capture : List Char → Expansion String) (r : Redirect) :
    Expansion (Option String) := do
  let target ← expandOne capture r.target
  let m ← get
  let result : Except String Machine := match r.operator with
    | "<<" => .ok (m.feed r.descriptor ⟨target, false⟩)
    | "<<<" => .ok (m.feed r.descriptor ⟨target ++ "\n", false⟩)
    | "<&" | ">&" => copyFor m r target
    | _ => openFor m r target
  match result with
  | .ok m => do
    set m
    return none
  | .error text => return some text

/-- Follows redirections one after another, up to the first one that cannot be followed. -/
def followAll (capture : List Char → Expansion String) : List Redirect → Expansion (Option String)
  | [] => return none
  | r :: rest => do
    match ← followOne capture r with
    | some text => return some text
    | none => followAll capture rest

namespace Machine

/-- The machine without the sources to which no descriptor leads, as far as they are newer than so
many others. -/
def trimSources (m : Machine) (count : Nat) : Machine :=
  let used := m.channels.foldl
    (fun most entry => match entry.2 with
      | .source n => max most (n + 1)
      | _ => most) count
  { m with sources := m.sources.take used }

/-- The machine with the descriptors of redirections as they were before. -/
def undirected (after before : Machine) (redirects : List Redirect) : Machine :=
  let descriptors := redirects.map Redirect.descriptor ++
    if redirects.any fun r => r.operator = ">&" && r.descriptor = 1 then [2] else []
  let m := descriptors.foldl
    (fun m d => match before.channel? d with
      | some channel => m.direct d channel
      | none => m.close d) after
  if redirects.isEmpty then m else m.trimSources before.sources.length

end Machine

end SmellRefactor.Shell
