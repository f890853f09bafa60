import SmellRefactor.Shell.Digest
import SmellRefactor.Shell.Utility.Basic

/-!
# Programs that tell the digests of files

Each file gets a line with its digest and its name, and such lines can be checked again.
-/

namespace SmellRefactor.Shell

/-- A kind of digest, with the tag that can stand before it. -/
structure DigestKind where
  tag : String
  digest : List Nat → List Nat

namespace DigestKind

/-- The digest of a text. -/
def of (kind : DigestKind) (text : String) : String :=
  Digest.text (kind.digest (text.toList.map Char.toNat))

/-- The kinds of digests, by the names of their programs. -/
def all : List (String × DigestKind) :=
  [("md5sum", ⟨"MD5", Digest.md5⟩), ("sha1sum", ⟨"SHA1", Digest.sha1⟩),
    ("sha224sum", ⟨"SHA224", Digest.Secure.shortCut.digest⟩),
    ("sha256sum", ⟨"SHA256", Digest.Secure.short.digest⟩),
    ("sha384sum", ⟨"SHA384", Digest.Secure.longCut.digest⟩),
    ("sha512sum", ⟨"SHA512", Digest.Secure.long.digest⟩)]

end DigestKind

/-- The digest and the name that a line holds, which is written with or without a tag. -/
def readDigestLine? (kind : DigestKind) (line : String) : Option (String × String) :=
  let tagged := kind.tag ++ " ("
  let isDigest (s : String) : Bool :=
    s.length = 2 * (kind.digest []).length && s.toList.all (Decimal.isDigitOf 16)
  if line.startsWith tagged then
    match (line.drop tagged.length).toString.splitOn ") = " with
    | [name, digest] => if isDigest digest then some (digest.toLower, name) else none
    | _ => none
  else
    let digest := String.ofList (line.toList.takeWhile (· ≠ ' '))
    match line.toList.drop digest.length with
    | ' ' :: mark :: name =>
      if isDigest digest && (mark = ' ' || mark = '*') && !name.isEmpty then
        some (digest.toLower, String.ofList name)
      else none
    | _ => none

/-- How many lines of a list of digests have failed in which way. -/
structure DigestFaults where
  malformed : Nat := 0
  unreadable : Nat := 0
  different : Nat := 0

/-- Checks the lines of a list of digests. -/
def checkDigests (kind : DigestKind) (o : Options) (list text : String) (m : Machine) :
    Nat × Machine :=
  let quiet := o.has 'q'
  let silent := o.has 's'
  let say (text : String) (m : Machine) : Machine := if silent then m else m.print 1 (text ++ "\n")
  let step (state : DigestFaults × Nat × Machine) (line : String) : DigestFaults × Nat × Machine :=
    let (faults, good, m) := state
    match readDigestLine? kind line with
    | none => ({ faults with malformed := faults.malformed + 1 }, good, m)
    | some (digest, name) =>
      match m.openInput name with
      | .error e =>
        let m := m.warn (aboutFile name e)
        ({ faults with unreadable := faults.unreadable + 1 }, good + 1,
          say (name ++ ": FAILED open or read") m)
      | .ok (content, m) =>
        if kind.of content = digest then
          (faults, good + 1, if quiet then m else say (name ++ ": OK") m)
        else
          ({ faults with different := faults.different + 1 }, good + 1, say (name ++ ": FAILED") m)
  let (faults, good, m) := (linesOf text).foldl step ({}, 0, m)
  if good = 0 then (1, m.warn (shownName list ++ ": no properly formatted checksum lines found"))
  else
    let told (n : Nat) (one many : String) (m : Machine) : Machine :=
      if n = 0 || silent then m
      else m.warn ("WARNING: " ++ toString n ++ " " ++ (if n = 1 then one else many))
    let m := told faults.malformed "line is improperly formatted" "lines are improperly formatted" m
    let m := told faults.unreadable "listed file could not be read"
      "listed files could not be read" m
    let m := told faults.different "computed checksum did NOT match"
      "computed checksums did NOT match" m
    (if faults.unreadable + faults.different = 0 then 0 else 1, m)

/-- Tells digests of files, or checks a list of them. -/
def digestProgram (kind : DigestKind) : Builtin :=
  withTable
    { flags := "bctgqswzi", valued := "", mixed := true, badStatus := 1
      long := [("binary", 'b'), ("check", 'c'), ("text", 't'), ("tag", 'g'), ("quiet", 'q'),
        ("status", 's'), ("warn", 'w'), ("zero", 'z'), ("ignore-missing", 'i')] }
    fun o m =>
      if o.has 'c' then
        let (status, m) := o.files.foldl
          (fun (state : Nat × Machine) path =>
            match state.2.openInput path with
            | .error e => (1, state.2.warn (aboutFile path e))
            | .ok (text, m) =>
              let (status, m) := checkDigests kind o path text m
              (max state.1 status, m)) (0, m)
        m.done status
      else
        let line (path text : String) : String :=
          let digest := kind.of text
          if o.has 'g' then kind.tag ++ " (" ++ path ++ ") = " ++ digest
          else digest ++ (if o.has 'b' then " *" else "  ") ++ path
        let (status, m) := readFiles aboutFile
          (fun path text m => m.print 1 (line path text ++ (if o.has 'z' then "\x00" else "\n"))) 1
          o.files m
        m.done status

/-- Tells a check of each file, which is made up from its bytes and their count. -/
def cksum : Builtin :=
  withTable
    { flags := "", valued := "a", mixed := true, badStatus := 1, long := [("algorithm", 'a')] }
    fun o m =>
      let line (path text : String) : String :=
        let bytes := text.toList.map Char.toNat
        match (o.value? 'a').bind fun name => DigestKind.all.lookup (name ++ "sum") with
        | some kind => kind.tag ++ " (" ++ path ++ ") = " ++ kind.of text
        | none => toString (Digest.remainder bytes) ++ " " ++ toString bytes.length ++
            (if o.operands.isEmpty then "" else " " ++ path)
      let (status, m) := readFiles aboutFile (fun path text m => m.print 1 (line path text ++ "\n"))
        1 o.files m
      m.done status

/-- Tells a sum of the bytes of each file, and how many blocks they fill. -/
def sumProgram : Builtin :=
  withTable
    { flags := "rs", valued := "", mixed := true, badStatus := 1, long := [("sysv", 's')] }
    fun o m =>
      let blocks (size count : Nat) : Nat := (count + size - 1) / size
      let atRight (width : Nat) (mark : Char) (n : Nat) : String :=
        let digits := (toString n).toList
        String.ofList (List.replicate (width - digits.length) mark ++ digits)
      let line (path text : String) : String :=
        let bytes := text.toList.map Char.toNat
        let name := if o.operands.isEmpty then "" else " " ++ path
        if o.has 's' then
          toString (Digest.foldedSum bytes) ++ " " ++ toString (blocks 512 bytes.length) ++ name
        else
          atRight 5 '0' (Digest.turningSum bytes) ++ " " ++
            atRight 5 ' ' (blocks 1024 bytes.length) ++ name
      let (status, m) := readFiles aboutFile (fun path text m => m.print 1 (line path text ++ "\n"))
        1 o.files m
      m.done status

end SmellRefactor.Shell
