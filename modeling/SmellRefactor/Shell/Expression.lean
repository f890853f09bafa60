import SmellRefactor.Shell.Pattern

/-!
# Regular expressions

What an expression matches in a text: of all matches the leftmost one, and of those the longest
one.  Within a match each part, from left to right, takes as much as it can.
-/

namespace SmellRefactor.Shell

/-- A place of a text between two characters. -/
inductive Anchor where
  | textStart
  | textEnd
  | lineStart
  | lineEnd
  | wordStart
  | wordEnd
  | wordEdge
  | noWordEdge
deriving DecidableEq, Repr

/-- A regular expression. -/
inductive Expression where
  | empty
  | character (matcher : Matcher)
  | anchor (anchor : Anchor)
  | sequence (first second : Expression)
  | either (first second : Expression)
  /-- Any number of times. -/
  | repeated (body : Expression)
  /-- What it takes is remembered under a number. -/
  | group (number : Nat) (body : Expression)
  /-- The text that a group has taken. -/
  | reference (number : Nat)
deriving Repr, Inhabited

/-- How far an expression has matched, and what its groups have taken, the latest ones first. -/
structure MatchState where
  position : Nat
  groups : List (Nat × Nat × Nat)
deriving DecidableEq, Repr

/-- A text in which an expression is looked for. -/
structure Subject where
  text : Array Char
  /-- Whether letters match in both cases. -/
  folded : Bool
  /-- Whether the text counts as several lines. -/
  multiline : Bool

/-- Whether a character belongs to a word. -/
def isWordChar (c : Char) : Bool := c.isAlphanum || c == '_'

namespace Subject

/-- Whether there is a character of a word right behind a place. -/
def wordAt (s : Subject) (position : Nat) : Bool := (s.text[position]?).any isWordChar

/-- Whether there is a character of a word right before a place. -/
def wordBefore (s : Subject) (position : Nat) : Bool :=
  0 < position && s.wordAt (position - 1)

/-- Whether a place is the one that an anchor asks for. -/
def isAt (s : Subject) (position : Nat) : Anchor → Bool
  | .textStart => position == 0
  | .textEnd => position == s.text.size
  | .lineStart => position == 0 || (s.multiline && s.text[position - 1]? == some '\n')
  | .lineEnd => position == s.text.size || (s.multiline && s.text[position]? == some '\n')
  | .wordStart => !s.wordBefore position && s.wordAt position
  | .wordEnd => s.wordBefore position && !s.wordAt position
  | .wordEdge => s.wordBefore position != s.wordAt position
  | .noWordEdge => s.wordBefore position == s.wordAt position

/-- Whether a matcher takes a character. -/
def accepts (s : Subject) (matcher : Matcher) (c : Char) : Bool :=
  if s.folded then
    match matcher with
    | .oneOf negated ranges =>
      [c, c.toLower, c.toUpper].any (Matcher.accepts (.oneOf false ranges)) != negated
    | matcher => matcher.accepts c.toLower || matcher.accepts c.toUpper
  else matcher.accepts c

/-- The part of the text between two places. -/
def slice (s : Subject) (first last : Nat) : List Char := (s.text.extract first last).toList

/-- Whether two texts are the same, up to the case of letters if that does not count. -/
def agree (s : Subject) (a b : List Char) : Bool :=
  if s.folded then a.map Char.toLower == b.map Char.toLower else a == b

end Subject

namespace Expression

/-- Whether an expression refers to what a group has taken. -/
def hasReference : Expression → Bool
  | sequence a b | either a b => a.hasReference || b.hasReference
  | repeated a | group _ a => a.hasReference
  | reference _ => true
  | _ => false

/-- Adds a state that has not been reached before; longer matches stand first. -/
def addState (same : MatchState → MatchState → Bool) (states : List MatchState) (s : MatchState) :
    List MatchState :=
  if states.any (same s) then states else insert states
where
  insert : List MatchState → List MatchState
    | [] => [s]
    | t :: rest => if t.position < s.position then s :: t :: rest else t :: insert rest

/-- All states that some steps lead to.  The states in `waiting` are tried one after another, those
that a state leads to right behind it. -/
def closure (same : MatchState → MatchState → Bool) (step : MatchState → List MatchState) :
    Nat → List MatchState → List MatchState → List MatchState
  | 0, _, reached => reached
  | _, [], reached => reached
  | fuel + 1, s :: waiting, reached =>
    if reached.any (same s) then closure same step fuel waiting reached
    else closure same step fuel (step s ++ waiting) (addState same reached s)

/-- The states in which an expression can end that begins in a state, longer matches first. -/
def run (s : Subject) (same : MatchState → MatchState → Bool) :
    Expression → MatchState → List MatchState
  | empty, state => [state]
  | character matcher, state =>
    match s.text[state.position]? with
    | some c => if s.accepts matcher c then [{ state with position := state.position + 1 }] else []
    | none => []
  | anchor a, state => if s.isAt state.position a then [state] else []
  | sequence a b, state =>
    (run s same a state).foldl (fun states t => (run s same b t).foldl (addState same) states) []
  | either a b, state =>
    (run s same b state).foldl (addState same) (run s same a state)
  | repeated a, state =>
    closure same (run s same a) ((s.text.size + 2) * (s.text.size + 2)) [state] []
  | group n a, state =>
    (run s same a state).map fun t =>
      { t with groups := (n, state.position, t.position) :: t.groups }
  | reference n, state =>
    match state.groups.lookup n with
    | none => []
    | some (first, last) =>
      let width := last - first
      if s.agree (s.slice first last) (s.slice state.position (state.position + width)) then
        [{ state with position := state.position + width }]
      else []

/-- Whether two states need not be told apart by an expression. -/
def sameFor (e : Expression) : MatchState → MatchState → Bool :=
  if e.hasReference then fun a b => a == b else fun a b => a.position == b.position

/-- The match of an expression that begins at a place. -/
def matchAt (e : Expression) (s : Subject) (position : Nat) : Option MatchState :=
  (e.run s e.sameFor ⟨position, []⟩).head?

/-- The leftmost match that does not begin before a place, with its beginning; `tries` bounds the
places that are tried. -/
def findFrom (e : Expression) (s : Subject) : Nat → Nat → Option (Nat × MatchState)
  | 0, _ => none
  | tries + 1, position =>
    if s.text.size < position then none
    else match e.matchAt s position with
      | some state => some (position, state)
      | none => findFrom e s tries (position + 1)

/-- The leftmost match that does not begin before a place, with its beginning. -/
def find? (e : Expression) (s : Subject) (position : Nat) : Option (Nat × MatchState) :=
  e.findFrom s (s.text.size + 1) position

/-- Whether an expression matches somewhere. -/
def isIn (e : Expression) (s : Subject) : Bool := (e.find? s 0).isSome

/-- Some expressions one after another. -/
def ofSequence : List Expression → Expression
  | [] => empty
  | [e] => e
  | e :: es => sequence e (ofSequence es)

/-- An expression so many times. -/
def times (e : Expression) : Nat → Expression
  | 0 => empty
  | 1 => e
  | n + 1 => sequence e (times e n)

/-- An expression at most so many times. -/
def atMost (e : Expression) : Nat → Expression
  | 0 => empty
  | n + 1 => either (sequence e (atMost e n)) empty

/-- An expression between two numbers of times. -/
def between (e : Expression) (least : Nat) : Option Nat → Expression
  | none => if least = 0 then repeated e else sequence (times e least) (repeated e)
  | some most =>
    if most = least then times e least
    else if least = 0 then atMost e most
    else sequence (times e least) (atMost e (most - least))

/-- The expression that stands for a text as it is. -/
def ofText (text : List Char) : Expression :=
  ofSequence (text.map fun c => character (.exactly c))

/-- The expression for whichever of some expressions matches. -/
def anyOf : List Expression → Expression
  | [] => empty
  | [e] => e
  | e :: es => either e (anyOf es)

end Expression

end SmellRefactor.Shell
