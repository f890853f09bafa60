/-!
# Patterns of the shell

A pattern matches a whole text.  Characters that stood in quotes match only themselves.
-/

namespace SmellRefactor.Shell

/-- A part of a pattern. -/
inductive Matcher where
  | exactly (c : Char)
  | any
  | anything
  | oneOf (negated : Bool) (ranges : List (Char × Char))
deriving DecidableEq, Repr, Inhabited

/-- The ranges of the named classes of characters. -/
def characterClasses : List (String × List (Char × Char)) :=
  [("alpha", [('a', 'z'), ('A', 'Z')]), ("digit", [('0', '9')]),
    ("alnum", [('a', 'z'), ('A', 'Z'), ('0', '9')]), ("upper", [('A', 'Z')]),
    ("lower", [('a', 'z')]), ("space", [('\t', '\r'), (' ', ' ')]),
    ("blank", [(' ', ' '), ('\t', '\t')]),
    ("punct", [('!', '/'), (':', '@'), ('[', '\x60'), ('\x7b', '~')]), ("print", [(' ', '~')]),
    ("graph", [('!', '~')]), ("cntrl", [('\x00', '\x1f'), ('\x7f', '\x7f')]),
    ("xdigit", [('0', '9'), ('a', 'f'), ('A', 'F')])]

/-- The ranges of a class with which a text begins, as in `[:alpha:]`, and what comes behind it. -/
def readClass (text : List Char) : Option (List (Char × Char) × List Char) :=
  match text with
  | '[' :: ':' :: rest =>
    let name := rest.takeWhile Char.isAlpha
    match rest.dropWhile Char.isAlpha with
    | ':' :: ']' :: rest =>
      (characterClasses.lookup (String.ofList name)).map fun ranges => (ranges, rest)
    | _ => none
  | _ => none

/-- The ranges of a bracket, up to its end.  A bracket right at the beginning is one of its
characters. -/
def readRanges : Nat → Bool → List (Char × Bool) → Option (List (Char × Char) × List (Char × Bool))
  | 0, _, _ => none
  | _, _, [] => none
  | fuel + 1, atStart, (c, quoted) :: rest =>
    let more (found : List (Char × Char)) (rest : List (Char × Bool)) :
        Option (List (Char × Char) × List (Char × Bool)) :=
      (readRanges fuel false rest).map fun (ranges, rest) => (found ++ ranges, rest)
    if c = ']' ∧ !quoted ∧ !atStart then some ([], rest)
    else
      match if quoted then none else readClass (c :: rest.map Prod.fst) with
      | some (ranges, behind) => more ranges (rest.drop (rest.length - behind.length))
      | none =>
        match rest with
        | ('-', false) :: (d, q) :: rest' =>
          if d = ']' ∧ !q then more [(c, c)] rest else more [(c, d)] rest'
        | _ => more [(c, c)] rest

/-- The parts of a pattern, given its characters and whether each of them was quoted.  One of the
characters in `negators` behind the opening of a bracket turns its meaning around; a backslash that
is not quoted protects the character behind it. -/
def matchers (negators : List Char) : Nat → List (Char × Bool) → List Matcher
  | 0, _ => []
  | _, [] => []
  | fuel + 1, (c, quoted) :: rest =>
    let others (rest : List (Char × Bool)) : List Matcher := matchers negators fuel rest
    if quoted then .exactly c :: others rest
    else if c = '*' then .anything :: others rest
    else if c = '?' then .any :: others rest
    else if c = '[' then
      let negated := rest.head?.any fun (d, q) => !q && negators.contains d
      let inner := if negated then rest.tail else rest
      match readRanges (inner.length + 1) true inner with
      | some (ranges, rest) => .oneOf negated ranges :: others rest
      | none => .exactly c :: others rest
    else if c = '\\' then
      match rest with
      | (d, _) :: rest => .exactly d :: others rest
      | [] => [.exactly c]
    else .exactly c :: others rest

/-- Whether a character is one of those that a matcher takes. -/
def Matcher.accepts : Matcher → Char → Bool
  | exactly c, d => c = d
  | any, _ => true
  | anything, _ => true
  | oneOf negated ranges, d => (ranges.any fun r => r.1 ≤ d && d ≤ r.2) != negated

/-- Whether a pattern matches a whole text. -/
def matchesAll : List Matcher → List Char → Bool
  | [], [] => true
  | [], _ :: _ => false
  | .anything :: rest, [] => matchesAll rest []
  | .anything :: rest, c :: text =>
    matchesAll rest (c :: text) || matchesAll (.anything :: rest) text
  | _ :: _, [] => false
  | matcher :: rest, c :: text => matcher.accepts c && matchesAll rest text
termination_by pattern text => pattern.length + text.length

/-- The pattern of characters that may have been quoted. -/
def patternOf (negators : List Char) (chars : List (Char × Bool)) : List Matcher :=
  matchers negators (chars.length + 1) chars

end SmellRefactor.Shell
