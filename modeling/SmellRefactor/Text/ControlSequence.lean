/-!
# Control sequences

A text for a terminal may hold sequences that begin with the escape character and only change how
the text around them looks.  Where no terminal reads the text, they and other control characters
are left out; blanks and line ends stay, also those inside of a sequence.
-/

namespace SmellRefactor.Text

/-- How far a control sequence has been read. -/
inductive Phase where
  /-- No sequence has begun. -/
  | text
  /-- The escape character has been read. -/
  | escape
  /-- A mark behind the escape character has been read, which takes one more character. -/
  | marked
  /-- The sequence runs up to a letter. -/
  | control
  /-- The sequence is a command that runs up to a bell. -/
  | command
  /-- The sequence is a string that only another escape character ends. -/
  | string
deriving DecidableEq, Repr

/-- The escape character. -/
def escapeCharacter : Char := Char.ofNat 0x1B

/-- Whether a control character moves the place of the text and so belongs to it. -/
def isLayout (c : Char) : Bool := c == '\t' || c == '\n' || c == '\r' || c == '\x0c'

namespace Phase

/-- The phase behind a character. -/
def after (phase : Phase) (c : Char) : Phase :=
  let code := c.toNat
  if c == escapeCharacter then escape
  else if code == 0x18 || code == 0x1A then text
  else match phase with
    | text => text
    | escape =>
      if code < 0x20 || 0x7F ≤ code then escape
      else if code < 0x30 then marked
      else if c == '[' then control
      else if c == ']' then command
      else if c == 'P' || c == 'X' || c == '^' || c == '_' then string
      else text
    | marked => if 0x30 ≤ code && code < 0x7F then text else marked
    | control => if 0x40 ≤ code && code < 0x7F then text else control
    | command => if code == 7 then text else command
    | string => string

/-- Whether a character belongs to the text. -/
def shows (phase : Phase) (c : Char) : Bool :=
  match phase with
  | text => isLayout c || (0x20 ≤ c.toNat && c.toNat ≠ 0x7F)
  | escape | marked | control => isLayout c
  | command | string => false

end Phase

/-- A text as a whole without its control sequences.  A layout character ends the sequence in which
it stands; so does a character beyond ASCII, of which all bytes but the first are left over. -/
def plainFrom : Phase → List Char → List Char
  | _, [] => []
  | phase, c :: rest =>
    if phase.shows c then c :: plainFrom .text rest
    else if 0x80 ≤ c.toNat then
      List.replicate (c.utf8Size - 1) (Char.ofNat 0xFFFD) ++ plainFrom .text rest
    else plainFrom (phase.after c) rest

/-- A text without its control sequences. -/
def plain (s : String) : String := String.ofList (plainFrom .text s.toList)

/-- A stream of text without its control sequences.  A layout character interrupts the sequence in
which it stands: the text behind it shows, and the next control character takes the sequence up
again.  The flag tells whether the text shows. -/
def streamedFrom : Bool → Phase → List Char → List Char
  | _, _, [] => []
  | showing, phase, c :: rest =>
    if (showing && Phase.text.shows c) || phase.shows c then
      c :: streamedFrom true (if c.toNat < 0x80 then phase else .text) rest
    else streamedFrom false (phase.after c) rest

/-- A text without its control sequences, as it leaves through a stream. -/
def streamed (s : String) : String := String.ofList (streamedFrom false .text s.toList)

end SmellRefactor.Text
