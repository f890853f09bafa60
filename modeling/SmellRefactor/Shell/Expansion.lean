import SmellRefactor.Shell.Glob
import SmellRefactor.Shell.Machine
import SmellRefactor.Shell.Parameter

/-!
# Filling in words

Parameters, expressions and the output of scripts are put into words, and what is not quoted falls
apart into fields.  How the output of a script is obtained is left open.
-/

namespace SmellRefactor.Shell

/-- Why a word cannot be filled in, and the status with which the script ends then. -/
structure Fault where
  text : String
  status : Nat
deriving Repr

/-- A step that fills in words and may change the shell. -/
abbrev Expansion := ExceptT Fault (StateM Machine)

/-- Ends with a complaint, where the plain shell ends with status two. -/
def stopWith (text : String) (richStatus : Nat) : Expansion α := do
  let m ← get
  throw ⟨m.placed text, if m.dialect = .plain then 2 else richStatus⟩

/-- Takes a step that gives a new machine or a complaint. -/
def orStop (result : Except String α) : Expansion α :=
  match result with
  | .ok value => pure value
  | .error text => stopWith text 1

/-- What a reference leads to. -/
inductive Referent where
  | one (value : Option String)
  /-- Some values, which `joined` makes one. -/
  | many (values : List String) (joined : Bool)

/-- The character that joins values. -/
def Machine.joiner (m : Machine) : String :=
  match m.get? "IFS" with
  | none => " "
  | some separators => String.ofList (separators.toList.take 1)

/-- What separates fields. -/
def Machine.separators (m : Machine) : List Char := ((m.get? "IFS").getD " \t\n").toList

namespace Referent

/-- The value as one text, if there is one. -/
def text? (m : Machine) : Referent → Option String
  | one value => value
  | many [] _ => none
  | many values true => some (m.joiner.intercalate values)
  | many values false => some ((if m.dialect = .plain then m.joiner else " ").intercalate values)

/-- The same referent with each value changed. -/
def map (f : List Char → List Char) : Referent → Referent
  | one value => one (value.map fun s => String.ofList (f s.toList))
  | many values joined => many (values.map fun s => String.ofList (f s.toList)) joined

end Referent

/-- Puts values into fields. -/
def Fields.put (fields : Fields) (m : Machine) (quoted : Bool) (values : Referent) : Fields :=
  if fields.whole then fields.add ((values.text? m).getD "").toList quoted
  else match values with
  | .one value =>
    let text := (value.getD "").toList
    if quoted then fields.add text true else fields.addSplitting m.separators text
  | .many values joined =>
    if quoted then
      if joined then fields.add (m.joiner.intercalate values).toList true else fields.addEach values
    else fields.addEachSplitting m.separators values

/-- The directory of a user. -/
def homeOf? (m : Machine) (user : String) : Option String :=
  match m.dialect, user with
  | _, "" => m.get? "HOME"
  | .rich, "+" => some m.directory
  | .rich, "-" => m.get? "OLDPWD"
  | _, "root" => some "/root"
  | _, "nobody" => some "/nonexistent"
  | _, "daemon" => some "/usr/sbin"
  | _, "bin" => some "/bin"
  | _, _ => none

/-- Puts the directory of a user in the place of a tilde and a name at the beginning of a text. -/
def withHome (m : Machine) (isLast : Bool) (ends : Char → Bool) (content : List Char) :
    Option (List Char × List Char) :=
  match content with
  | '~' :: rest =>
    let name := rest.takeWhile fun c => !ends c
    let behind := rest.drop name.length
    if behind.isEmpty && !isLast then none
    else (homeOf? m (String.ofList name)).map fun home => (home.toList, behind)
  | _ => none

/-- A word in which a tilde at its beginning stands for a directory. -/
def Word.withHome (m : Machine) (word : Word) : Word :=
  match word with
  | .text content false :: rest =>
    match Shell.withHome m rest.isEmpty (· = '/') content with
    | some (home, behind) =>
      .text home true :: if behind.isEmpty then rest else .text behind false :: rest
    | none => word
  | word => word

/-- The value of an assignment, in which tildes behind colons stand for directories, too. -/
def Word.withHomes (m : Machine) (word : Word) : Word :=
  match word with
  | .text content false :: rest =>
    let parts := String.ofList content |>.splitOn ":"
    let pieces := parts.mapIdx fun i part =>
      let isLast := i + 1 < parts.length || rest.isEmpty
      let piece : Word := match Shell.withHome m isLast (· = '/') part.toList with
        | some (home, behind) => [.text home true, .text behind false]
        | none => [.text part.toList false]
      if i = 0 then piece else .text [':'] false :: piece
    if content.contains '~' then pieces.flatten ++ rest else word
  | word => word

/-- The characters of a field that holds everything. -/
def Fields.only (fields : Fields) : Field.Chars := fields.all.flatten

/-- What the complaint about a parameter says that has no value. -/
def unsetComplaint (m : Machine) (name : String) : String :=
  match m.dialect with
  | .plain => name ++ ": parameter not set"
  | .rich =>
    (if name.toList.all Char.isDigit then "$" ++ name else name) ++ ": unbound variable"

/-- A text that has been written, without the line ends at its end. -/
def withoutLineEnds (text : String) : String :=
  String.ofList ((text.toList.filter (· ≠ '\x00')).reverse.dropWhile (· = '\n')).reverse

/-- The values of a list, or the one value of another variable. -/
def Machine.valueOf (m : Machine) (name : String) : Option Value :=
  match m.value? name with
  | some value => some value
  | none =>
    if m.dialect = .rich && name = "PIPESTATUS" then
      some (.list ((List.range m.statuses.length).zip (m.statuses.map toString)))
    else none

/-- Computes an expression. -/
def computeText (text : String) : Expansion Int := do
  match (← get).calculate text.toList with
  | .ok (n, m) => do
    set m
    return n
  | .error complaint => stopWith complaint 1

/-- Reads a text that belongs to a word. -/
def readPart (reach : Reach) (text : List Char) : Expansion Word := do
  orStop (readWhole (← get).dialect reach text)

/-- Sets what a reference leads to. -/
def setReferent (reference : Reference) (key : Option String) (text : String) : Expansion Unit := do
  let m ← get
  let name := String.ofList reference.name
  match key, m.value? name with
  | some key, some (.table entries) =>
    set (← orStop (m.replace name (.table (Value.insertKey key text entries))))
  | some key, _ => do
    let n ← computeText key
    set (← orStop ((← get).changeAt name n text))
  | none, _ => set (← orStop (m.change name text))

mutual

/-- Fills in the pieces of a word. -/
def expandPieces (capture : List Char → Expansion String) :
    Nat → Word → Fields → Expansion Fields
  | 0, _, fields => pure fields
  | _, [], fields => pure fields
  | fuel + 1, piece :: pieces, fields => do
    let fields ← match piece with
      | .text content quoted =>
        if fields.loose && !quoted && !fields.whole then
          pure (fields.addSplitting (← get).separators content)
        else pure (fields.add content quoted)
      | .script source quoted => do
        let text ← capture source
        pure (fields.put (← get) quoted (.one (some (withoutLineEnds text))))
      | .arithmetic expression quoted => do
        let reach := if (← get).dialect = .plain then Reach.document else .quotedOperand
        let text ← expandText capture fuel reach expression
        let n ← computeText text
        pure (fields.put (← get) quoted (.one (some (Decimal.integerText n))))
      | .parameter body quoted => expandParameter capture fuel body quoted fields
      | .document source => do
        let text ← capture source
        let m ← get
        let number := 63 - (namesIn m.tree ["dev", "fd"]).length
        let tree := m.tree.makeDirectories ["dev", "fd"]
        let file := FileNode.file (bytesOfText text) Mode.usual
        set { m with tree := tree.place ["dev", "fd", toString number] file }
        pure (fields.add ("/dev/fd/" ++ toString number).toList true)
    expandPieces capture fuel pieces fields

/-- Fills in a text, which stays one field. -/
def expandText (capture : List Char → Expansion String) :
    Nat → Reach → List Char → Expansion String
  | 0, _, _ => pure ""
  | fuel + 1, reach, text => do
    let fields ← expandPieces capture fuel (← readPart reach text) .single
    return fieldText fields.only

/-- Fills in a pattern. -/
def expandPattern (capture : List Char → Expansion String) :
    Nat → Word → Expansion (List Matcher)
  | 0, _ => pure []
  | fuel + 1, word => do
    let fields ← expandPieces capture fuel word .single
    return patternOf (← get).dialect.negators fields.only

/-- What a reference leads to, and the key of its place. -/
def refer (capture : List Char → Expansion String) :
    Nat → Reference → Expansion (Referent × Option String)
  | 0, _ => pure (.one none, none)
  | fuel + 1, reference => do
    let m ← get
    let name := String.ofList reference.name
    let texts := ((m.valueOf name).map Value.texts).getD []
    let (direct, key) ← match reference.name, reference.subscript with
      | ['@'], _ => pure (.many m.arguments false, none)
      | ['*'], _ => pure (.many m.arguments true, none)
      | name, none => pure (.one (m.parameter? name), none)
      | _, some ['@'] => pure (.many texts false, none)
      | _, some ['*'] => pure (.many texts true, none)
      | _, some place => do
        let key ← expandText capture fuel .quotedOperand place
        match m.valueOf name with
        | some (.table entries) => pure (.one (entries.lookup key), some key)
        | some (.list items) => do
          let n ← computeText key
          pure (.one (items.lookup (Machine.placeIn items n)), some key)
        | _ => do
          let n ← computeText key
          pure (.one ((← get).at? name n), some key)
    if reference.indirect then
      match direct.text? m with
      | none => return (.one none, none)
      | some target =>
        let (inner, _) := readReference .rich false target.toList
        refer capture fuel inner
    else return (direct, key)

/-- Fills in a parameter with its operation. -/
def expandParameter (capture : List Char → Expansion String) :
    Nat → List Char → Bool → Fields → Expansion Fields
  | 0, _, _, fields => pure fields
  | fuel + 1, body, quoted, fields => do
    let m ← get
    match readParameter m.dialect body with
    | none =>
      stopWith (match m.dialect with
        | .plain => "Bad substitution"
        | .rich => "$\x7b" ++ String.ofList body ++ "\x7d: bad substitution") 1
    | some (reference, operation) =>
      let (referent, key) ← refer capture fuel reference
      let m ← get
      let name := String.ofList reference.name
      let put (values : Referent) : Expansion Fields := do return fields.put (← get) quoted values
      let value? := referent.text? m
      let isAll := reference.name = ['@'] || reference.name = ['*']
      let unset : Expansion Fields := stopWith (unsetComplaint m name) 127
      let inside (text : List Char) : Expansion Fields := do
        let word ← readPart (if quoted then .quotedOperand else .operand) text
        let word := if quoted then word else word.withHome m
        let inner ← expandPieces capture fuel word { fields with loose := !quoted }
        return { inner with loose := fields.loose }
      let number (text : List Char) : Expansion Int := do
        computeText (← expandText capture fuel .quotedOperand text)
      match operation with
      | .none =>
        if value?.isNone && m.has 'u' && !isAll then unset else put referent
      | .length =>
        match m.dialect, referent with
        | .rich, .many values _ => put (.one (some (toString values.length)))
        | _, _ =>
          if value?.isNone && m.has 'u' && !isAll then unset
          else put (.one (some (toString (value?.getD "").length)))
      | .keys => put (.many (((m.valueOf name).map Value.keys).getD []) (key = some "*"))
      | .names =>
        let names := (m.bindings.map Prod.fst).filter fun n => n.startsWith name
        put (.many (names.mergeSort fun a b => decide (a ≤ b)) false)
      | .instead operator text =>
        let missing := if operator.startsWith ":" then (value?.getD "").isEmpty else value?.isNone
        match operator with
        | ":-" | "-" => if missing then inside text else put referent
        | ":+" | "+" => if missing then put (.one (some "") ) else inside text
        | ":=" | "=" =>
          if missing then do
            let text ← expandText capture fuel (if quoted then .quotedOperand else .operand) text
            setReferent reference key text
            put (.one (some text))
          else put referent
        | operator =>
          if missing then do
            let text ← expandText capture fuel (if quoted then .quotedOperand else .operand) text
            let unsaid := match operator, m.dialect with
              | ":?", .plain => "parameter not set or null"
              | ":?", .rich => "parameter null or not set"
              | _, _ => "parameter not set"
            stopWith (name ++ ": " ++ if text.isEmpty then unsaid else text) 127
          else put referent
      | .trim operator pattern => do
        if value?.isNone && m.has 'u' && !isAll then unset
        else
          let word := (← readPart .operand pattern).withHome m
          let pattern ← expandPattern capture fuel word
          put (referent.map (trimMatch operator pattern))
      | .replace operator pattern word => do
        let pattern ← expandPattern capture fuel (← readPart .operand pattern)
        let word ← expandText capture fuel .operand word
        put (referent.map (replaceMatches operator pattern word.toList))
      | .changeCase operator pattern => do
        let pattern ← expandPattern capture fuel (← readPart .operand pattern)
        put (referent.map (changeCases operator pattern))
      | .quoted => put (referent.map fun text =>
          (let text := String.ofList text
            if needsEscapes text then inEscapes text else inApostrophes text).toList)
      | .slice first length => do
        let first ← number first
        let length ← match length with
          | some text => do pure (some (← number text))
          | none => pure none
        match referent with
        | .many values joined =>
          let values := if isAll then m.name :: values else values
          put (.many (sliceOf values first length) joined)
        | .one value =>
          put (.one (value.map fun text => String.ofList (sliceOf text.toList first length)))

end

/-! ## Words -/

/-- How deep words may be nested in words. -/
def expansionFuel : Nat := 100000

/-- Fills in words, which may give any number of fields. -/
def expandWords (capture : List Char → Expansion String) : List Word → Expansion (List String)
  | [] => pure []
  | word :: words => do
    let m ← get
    let parts := if m.dialect = .rich && !m.has 'B' then word.withBraces else [word]
    let fields ← parts.mapM fun part => do
      let fields ← expandPieces capture expansionFuel (part.withHome m) .start
      let m ← get
      return fields.all.flatMap fun field =>
        if m.has 'f' then [fieldText field]
        else match pathsFor m.dialect.negators m.tree field with
        | [] =>
          if isPattern field && m.settings.contains "nullglob" then [] else [fieldText field]
        | paths => paths
    return fields.flatten ++ (← expandWords capture words)

/-- Fills in a word that stays one field. -/
def expandOne (capture : List Char → Expansion String) (word : Word) : Expansion String := do
  let fields ← expandPieces capture expansionFuel (word.withHome (← get)) .single
  return fieldText fields.only

/-- Fills in the value of an assignment. -/
def expandValue (capture : List Char → Expansion String) (word : Word) : Expansion String := do
  let fields ← expandPieces capture expansionFuel (word.withHomes (← get)) .single
  return fieldText fields.only

/-- The key and the text of a value that is written with its key, as in `[key]=text`. -/
def keyedValue (word : Word) : Option (Word × Word) :=
  match word with
  | .text ('[' :: rest) false :: pieces =>
    (splitSubscript (.text rest false :: pieces)).map fun (key, _, value) => (key, value)
  | _ => none

/-- Adds values to a list, one after another; a value with a key goes to the place of the key. -/
def fillList (capture : List Char → Expansion String) :
    List Word → List (Nat × String) → Expansion (List (Nat × String))
  | [], items => pure items
  | word :: words, items => do
    let next := ((items.getLast?.map fun item => item.1 + 1).getD 0)
    match keyedValue word with
    | some (key, value) => do
      let n ← computeText (← expandOne capture key)
      let text ← expandValue capture value
      fillList capture words (Value.insertAt n.toNat text items)
    | none => do
      let texts ← expandWords capture [word]
      let added := texts.mapIdx fun i text => (next + i, text)
      fillList capture words (items ++ added)

/-- Adds values with keys to a table. -/
def fillTable (capture : List Char → Expansion String) :
    List Word → List (String × String) → Expansion (List (String × String))
  | [], entries => pure entries
  | word :: words, entries => do
    match keyedValue word with
    | some (key, value) => do
      let key ← expandOne capture key
      let text ← expandValue capture value
      fillTable capture words (Value.insertKey key text entries)
    | none => fillTable capture words entries

/-- Sets a variable. -/
def assign (capture : List Char → Expansion String) (a : Assignment) : Expansion Unit := do
  match a.value with
  | .list words =>
    match (← get).value? a.name with
    | some (.table entries) => do
      let entries ← fillTable capture words (if a.extending then entries else [])
      set (← orStop ((← get).replace a.name (.table entries)))
    | old => do
      let items := match old with
        | some (.list items) => items
        | some (.text text) => [(0, text)]
        | _ => []
      let items ← fillList capture words (if a.extending then items else [])
      set (← orStop ((← get).replace a.name (.list items)))
  | .word word => do
    let text ← expandValue capture word
    let reference : Reference := ⟨a.name.toList, none, false⟩
    match a.subscript with
    | none =>
      let m ← get
      let old := if a.extending then (m.get? a.name).getD "" else ""
      setReferent reference none (old ++ text)
    | some place => do
      let key ← expandOne capture place
      let m ← get
      let old ← if a.extending then
          match m.value? a.name with
          | some (.table entries) => pure ((entries.lookup key).getD "")
          | _ => do
            let n ← computeText key
            pure ((m.at? a.name n).getD "")
        else pure ""
      setReferent reference (some key) (old ++ text)

end SmellRefactor.Shell
