import SmellRefactor.Shell.Expression.Reader
import SmellRefactor.Shell.Utility.Listing

/-!
# Searching in files

`grep` writes the lines of files in which an expression matches, with as much around them as is
asked for.
-/

namespace SmellRefactor.Shell

/-! ## Lines that match -/

/-- What is looked for in a line. -/
structure Query where
  expressions : List Expression
  folded : Bool
  /-- Matches have to be whole words. -/
  words : Bool
  /-- Matches have to be whole lines. -/
  whole : Bool

namespace Query

/-- The end of the longest match that begins at a place of a line. -/
def endFrom (q : Query) (s : Subject) (start : Nat) : Option Nat :=
  let ends := q.expressions.flatMap fun e =>
    (e.run s e.sameFor ⟨start, []⟩).map MatchState.position
  let fits (stop : Nat) : Bool :=
    (!q.whole || (start = 0 && stop = s.text.size)) &&
      (!q.words || (!s.wordBefore start && !s.wordAt stop))
  (ends.filter fits).foldl
    (fun best stop => some (max stop (best.getD 0))) none

/-- The leftmost match that does not begin before a place: where it begins and ends. -/
def matchFrom (q : Query) (s : Subject) (place : Nat) : Option (Nat × Nat) :=
  (List.range (s.text.size + 1 - place)).findSome? fun n =>
    (q.endFrom s (place + n)).map fun stop => (place + n, stop)

/-- All matches in a line that are not empty, one behind the other. -/
def allMatches (q : Query) (s : Subject) : Nat → Nat → List (Nat × Nat)
  | 0, _ => []
  | fuel + 1, place =>
    match q.matchFrom s place with
    | none => []
    | some (start, stop) =>
      if stop ≤ start then q.allMatches s fuel (start + 1)
      else (start, stop) :: q.allMatches s fuel stop

end Query

/-! ## Complaints -/

/-- How the search has to be called. -/
def searchUsage : String := "Usage: grep [OPTION]... PATTERNS [FILE]...\n" ++
  "Try 'grep --help' for more information.\n"

/-- The operators at the beginning of an extended expression or of a part of it, each as it is told.
`atStart` says whether a part begins here. -/
def idleOperators : Bool → List Char → List String
  | _, '\\' :: _ :: rest => idleOperators false rest
  | _, '[' :: rest =>
    idleOperators false (rest.drop ((rest.drop 1).takeWhile (· ≠ ']')).length.succ)
  | _, '(' :: rest | _, '|' :: rest => idleOperators true rest
  | atStart, '^' :: rest => idleOperators atStart rest
  | atStart, c :: rest =>
    if atStart && (c = '*' || c = '+' || c = '?') then c.toString :: idleOperators false rest
    else if atStart && c = '\x7b' && rest.head?.any Char.isDigit then
      "\x7b...\x7d" :: idleOperators false rest
    else idleOperators false rest
  | _, [] => []
termination_by _ text => text.length

/-- What comes behind the end of a bracket. -/
def behindBracket : List Char → List Char
  | '[' :: ':' :: rest => behindBracket (rest.drop ((rest.takeWhile (· ≠ ']')).length + 1))
  | ']' :: rest => rest
  | _ :: rest => behindBracket rest
  | [] => []
termination_by text => text.length

/-- Whether an expression holds the name of a class in single brackets; `fuel` bounds the characters
that are looked at. -/
def hasBareClass : Nat → List Char → Bool
  | 0, _ => false
  | fuel + 1, text =>
    match text with
    | '\\' :: _ :: rest => hasBareClass fuel rest
    | '[' :: ':' :: rest =>
      let name := rest.takeWhile (· ≠ ']')
      (name.getLast? = some ':' && name.length < rest.length) || hasBareClass fuel rest
    | '[' :: rest =>
      let members := if rest.head? = some '^' then rest.tail else rest
      let members := if members.head? = some ']' then members.tail else members
      hasBareClass fuel (behindBracket members)
    | _ :: rest => hasBareClass fuel rest
    | [] => false

/-! ## Files -/

/-- How results are shown. -/
structure SearchView where
  options : Options
  query : Query
  /-- How many lines before and behind a line are shown, if any are. -/
  before : Nat
  after : Nat
  grouped : Bool
  /-- What stands between groups of lines. -/
  separator : Option String
  most : Option Nat
  named : Bool

/-- What a search has come to. -/
structure SearchResult where
  machine : Machine
  found : Bool
  failed : Bool
  /-- Whether a group of lines has been written. -/
  written : Bool

/-- A line with its number and the number of bytes before it. -/
structure SearchLine where
  text : String
  number : Nat
  offset : Nat

/-- The lines of a text with their places. -/
def searchLines (stop : String) (text : String) : List SearchLine :=
  let parts := text.splitOn stop
  let parts := if parts.getLast? = some "" then parts.dropLast else parts
  let step (state : List SearchLine × Nat × Nat) (part : String) :
      List SearchLine × Nat × Nat :=
    (⟨part, state.2.1, state.2.2⟩ :: state.1, state.2.1 + 1, state.2.2 + part.length + 1)
  (parts.foldl step ([], 1, 0)).1.reverse

/-- Searches a text. -/
def searchText (v : SearchView) (name text : String) (r : SearchResult) : SearchResult :=
  let o := v.options
  let stop := if o.has 'z' then "\x00" else "\n"
  let binary := !o.has 'z' && !o.has 'a' && text.contains '\x00'
  let lines := if binary && o.has 'I' then [] else searchLines stop text
  let subject (line : String) : Subject := ⟨line.toList.toArray, v.query.folded, false⟩
  let selected (line : SearchLine) : Bool :=
    (v.query.matchFrom (subject line.text) 0).isSome != o.has 'v'
  let wanted := (lines.filter selected).map SearchLine.number
  let wanted := match v.most with
    | some n => wanted.take n
    | none => wanted
  let r := { r with found := r.found || !wanted.isEmpty }
  let say (text : String) (r : SearchResult) : SearchResult :=
    { r with machine := r.machine.print 1 text }
  let ending := if o.has 'Z' then "\x00" else "\n"
  if o.has 'q' then r
  else if o.has 'l' || o.has 'L' then
    if wanted.isEmpty == o.has 'L' then say (name ++ ending) r else r
  else if o.has 'c' then
    say ((if v.named then name ++ (if o.has 'Z' then "\x00" else ":") else "") ++
      toString wanted.length ++ "\n") r
  else if binary then
    if wanted.isEmpty then r
    else { r with machine := r.machine.warn (name ++ ": binary file matches") }
  else
    let head (mark : String) (line : SearchLine) (offset : Nat) : String :=
      (if v.named then name ++ (if o.has 'Z' then "\x00" else mark) else "") ++
        (if o.has 'n' then toString line.number ++ mark else "") ++
        (if o.has 'b' then toString offset ++ mark else "")
    let write (state : SearchResult × Nat) (line : SearchLine) : SearchResult × Nat :=
      let (r, previous) := state
      let isWanted := wanted.contains line.number
      let shown := isWanted || wanted.any fun n =>
        n ≤ line.number + v.before && line.number ≤ n + v.after
      if !shown then (r, previous)
      else
        let between := v.grouped && r.written && previous + 1 ≠ line.number
        let r := match if between then v.separator else none with
          | some text => say (text ++ "\n") r
          | none => r
        let text :=
          if !o.has 'o' then
            head (bif isWanted then ":" else "-") line line.offset ++ line.text ++ stop
          else if !isWanted || o.has 'v' then ""
          else
            let s := subject line.text
            String.join ((v.query.allMatches s (s.text.size + 1) 0).map fun (start, stop') =>
              head ":" line (line.offset + start) ++ String.ofList (s.slice start stop') ++ stop)
        ({ say text r with written := true }, line.number)
    -- Groups in different files are never neighbours.
    (lines.foldl write (r, lines.length + 1)).1

/-- Whether a pattern matches the name of a file. -/
def fitsName (name pattern : String) : Bool :=
  matchesAll (patternOf Dialect.rich.negators (pattern.toList.map fun c => (c, false)))
    name.toList

/-- Whether a name is one that is searched. -/
def isSearched (includes excludes : List String) (name : String) : Bool :=
  (includes.isEmpty || includes.any (fitsName name)) && !excludes.any (fitsName name)

/-- The files below a directory, each with its path. -/
def filesBelow (skipped : String → Bool) (tree : FileTree) (path : String) (location : Location) :
    List String :=
  let start := if path.isEmpty then "" else path
  (subtree tree location).filterMap fun (l, node) =>
    let names := (l.drop location.length).map encoded
    let inSkipped := (names.dropLast.any skipped)
    if node.isDirectory || node.isDevice || names.isEmpty || inSkipped then none
    else some (names.foldl (fun path name => if path.isEmpty then name else below path name) start)

/-- Searches a file, or all files of a directory. -/
def searchAt (v : SearchView) (includes excludes skippedNames : List String) (path : String)
    (r : SearchResult) : SearchResult :=
  let o := v.options
  let recursive := o.has 'r' || o.has 'R'
  let complain (path text : String) (r : SearchResult) : SearchResult :=
    { r with
      failed := true
      machine := if o.has 's' then r.machine else r.machine.warn (path ++ ": " ++ text) }
  let one (path : String) (r : SearchResult) : SearchResult :=
    if o.has 'q' && r.found then r
    else
      let name := if path = "-" then "(standard input)" else path
      match r.machine.openInput path with
      | .ok (text, m) => searchText v name text { r with machine := m }
      | .error e => complain path (plainMessage e) r
  match if path = "-" then none else r.machine.standing (if path.isEmpty then "." else path) with
  | some (location, .directory) =>
    if recursive then
      let skipped (name : String) : Bool := skippedNames.any (fitsName name)
      let files := (filesBelow skipped r.machine.tree path location).filter fun p =>
        isSearched includes excludes (baseName p)
      files.foldl (fun r path => one path r) r
    else if o.value? 'd' = some "skip" then r
    else complain path "Is a directory" r
  | _ => one path r

/-- Reads arguments in which digits may stand for a number of lines, and long options that hold
names of files. -/
def searchTable : OptionTable :=
  { flags := "0123456789EFGPicvyxwlLqsnHhobrRaIzZTUu=", valued := "efmABCdDgXYW", mixed := true
    badStatus := 2
    long := [("extended-regexp", 'E'), ("fixed-strings", 'F'), ("basic-regexp", 'G'),
      ("perl-regexp", 'P'), ("regexp", 'e'), ("file", 'f'), ("ignore-case", 'i'),
      ("invert-match", 'v'), ("word-regexp", 'w'), ("line-regexp", 'x'), ("count", 'c'),
      ("files-with-matches", 'l'), ("files-without-match", 'L'), ("quiet", 'q'), ("silent", 'q'),
      ("no-messages", 's'), ("line-number", 'n'), ("with-filename", 'H'), ("no-filename", 'h'),
      ("only-matching", 'o'), ("byte-offset", 'b'), ("max-count", 'm'), ("after-context", 'A'),
      ("before-context", 'B'), ("context", 'C'), ("recursive", 'r'), ("text", 'a'),
      ("null-data", 'z'), ("null", 'Z'), ("color", '='), ("colour", '='), ("include", 'X'),
      ("exclude", 'Y'), ("exclude-dir", 'W'), ("group-separator", 'g'),
      ("no-group-separator", 'u'), ("directories", 'd'), ("line-buffered", '='),
      ("binary-files", 'D')] }

/-- Searches for lines, given the kind of expressions that the name of the program asks for. -/
def grepAs (kind : Option Char) : Builtin := fun args m =>
  let usage (m : Machine) : Flow × Machine := (m.complain searchUsage).done 2
  match searchTable.readAll args with
  | .error text => usage (m.warn text)
  | .ok o =>
    -- Digits are the number of lines around a match.
    let digits := (o.given.map Prod.fst).filter Char.isDigit
    let context := if digits.isEmpty then [] else [('C', String.ofList digits)]
    let o := { o with given := kind.toList.map (fun c => (c, "")) ++ o.given ++ context }
    let lines (text : String) : List String := text.splitOn "\n"
    let given := (o.values 'e').flatMap lines
    let files := o.values 'f'
    let fromFiles : Except (String × SystemError) (List String × Machine) :=
      files.foldlM
        (fun (patterns, m) path =>
          match m.openInput path with
          | .ok (text, m) => .ok (patterns ++ linesOf text, m)
          | .error e => .error (path, e)) ([], m)
    let explicit := !(o.values 'e').isEmpty || !files.isEmpty
    match fromFiles, explicit, o.operands with
    | .error (path, e), _, _ => m.report (path ++ ": " ++ plainMessage e) 2
    | .ok _, false, [] => usage m
    | .ok (more, m), explicit, operands =>
      let (patterns, paths) := if explicit then (given ++ more, operands)
        else (lines (operands.head?.getD ""), operands.tail)
      let number (letter : Char) : Option String := o.value? letter
      let badContext := (['A', 'B', 'C'].filterMap number).find? fun text => text.toNat?.isNone
      match badContext, (number 'm').filter fun text => text.toInt?.isNone with
      | some text, _ => m.report (text ++ ": invalid context length argument") 2
      | none, some _ => m.report "invalid max count" 2
      | none, none =>
        let letter := o.last? ['E', 'F', 'G', 'P']
        let kinds := (o.given.map Prod.fst).filter "EFGP".toList.contains
        let flavor := match letter with
          | some 'E' => Expression.Flavor.extendedOne
          | some 'P' => Expression.Flavor.enrichedOne
          | _ => Expression.Flavor.basic
        let read (pattern : String) : Except Expression.Problem Expression :=
          if letter = some 'F' then .ok (.ofText pattern.toList)
          else Expression.ofString flavor pattern.toList
        let m := if letter ≠ some 'E' then m
          else patterns.foldl
            (fun m pattern => (idleOperators true pattern.toList).foldl
              (fun m text => m.warn ("warning: " ++ text ++ " at start of expression")) m) m
        let bare := letter ≠ some 'F' && patterns.any fun p =>
          hasBareClass (p.length + 1) p.toList
        if 1 < kinds.eraseDups.length then m.report "conflicting matchers specified" 2
        else match patterns.mapM read with
        | .error problem => m.report problem.message 2
        | .ok expressions =>
          if bare then m.report "character class syntax is [[:space:]], not [:space:]" 2 else
          let recursive := o.has 'r' || o.has 'R'
          let lineCount (letter : Char) : Nat :=
            match (number letter).bind String.toNat?, (number 'C').bind String.toNat? with
            | some n, _ => n
            | none, some n => n
            | none, none => 0
          let most := (number 'm').bind fun text =>
            text.toInt?.bind fun n => if n < 0 then none else some n.toNat
          let named := match o.last? ['H', 'h'] with
            | some 'H' => true
            | some _ => false
            | none => 1 < paths.length || (recursive &&
                (paths.isEmpty || paths.any m.isDirectory))
          let view : SearchView :=
            { options := o
              query := ⟨expressions, o.has 'i' || o.has 'y', o.has 'w' && !o.has 'x', o.has 'x'⟩
              before := lineCount 'B', after := lineCount 'A'
              grouped := ['A', 'B', 'C'].any o.has
              separator := if o.has 'u' then none else some ((o.value? 'g').getD "--")
              most := most
              named := named }
          let paths := if paths.isEmpty then if recursive then [""] else ["-"] else paths
          if most = some 0 then m.done 1
          else
            let r := paths.foldl
              (fun r path => if o.has 'q' && r.found then r
                else searchAt view (o.values 'X') (o.values 'Y') (o.values 'W') path r)
              ⟨m, false, false, false⟩
            r.machine.done (if o.has 'q' && r.found then 0 else if r.failed then 2
              else if r.found then 0 else 1)

/-- Searches for lines. -/
def grep : Builtin := grepAs none

/-- Searches for lines with extended expressions. -/
def egrep : Builtin := grepAs (some 'E')

/-- Searches for lines with plain texts. -/
def fgrep : Builtin := grepAs (some 'F')

end SmellRefactor.Shell
