/-
# Text for terminals

A text may hold control sequences, which a terminal obeys and does not show. Here
is what remains of a text without them and without the control characters that do
not part words or lines. A sequence starts with the escape character; what follows
says of which kind it is and so where it ends. A sequence that its end is missing
from swallows what follows it.
-/

namespace BeanConstraints.Text

/-- A control sequence that has begun. -/
inductive Sequence where
  /-- Nothing after the escape character yet. -/
  | escape
  /-- A short sequence that waits for its last character. -/
  | short
  /-- A sequence with parameters, which a letter ends. -/
  | control
  /-- The parameters in front of a string for the device. -/
  | header
  /-- A string, which only a terminator ends. -/
  | body
  /-- A string for the system, such as a title, which a bell ends as well. -/
  | system
  deriving DecidableEq, Inhabited

/-- How a text is read. -/
inductive Reading where
  /-- Characters are shown. -/
  | shown
  /-- Characters belong to a sequence. -/
  | inside (sequence : Sequence)
  /-- A line end or the like came in the middle of a sequence. Characters are shown up to the
  next control character, which takes the sequence up again. -/
  | paused (sequence : Sequence)
  deriving DecidableEq, Inhabited

namespace Reading

/-- A control character of ASCII. -/
def isControl (c : Char) : Bool :=
  c.toNat < 0x20 || c == '\x7f'

/-- A control character that parts words or lines. -/
def isSpacing (c : Char) : Bool :=
  c == '\t' || c == '\n' || c == '\x0c' || c == '\r'

/-- Whether the encoded character contains the byte that ends a string. -/
def endsString (c : Char) : Bool :=
  (String.singleton c).toUTF8.data.contains 0x9C

/-- What the character after the escape character begins. -/
def begin (c : Char) : Reading :=
  match c with
  | '[' => inside .control
  | ']' => inside .system
  | 'P' => inside .header
  | 'X' => inside .body
  | '^' => inside .body
  | '_' => inside .body
  | c =>
      if c.toNat < 0x30 then inside .short
      else if c.toNat < 0x80 then shown
      else inside .escape

/-- Where a visible character leads that belongs to a sequence. -/
def advance (sequence : Sequence) (c : Char) : Reading :=
  let n := c.toNat
  match sequence with
  | .escape => begin c
  | .short => if 0x30 ≤ n && n < 0x80 then shown else inside .short
  | .control => if 0x40 ≤ n && n < 0x80 then shown else inside .control
  | .header => if 0x40 ≤ n && n < 0x80 then inside .body else inside .header
  | .body => if endsString c then shown else inside .body
  | .system => inside .system

/-- Where a control character leads that stands in a sequence, and whether it is shown. Strings
hide line ends. -/
def interrupt (sequence : Sequence) (c : Char) : Reading × Bool :=
  match sequence with
  | .header => (inside .header, false)
  | .body => (inside .body, false)
  | .system => (if c == '\x07' then shown else inside .system, false)
  | sequence => if isSpacing c then (paused sequence, true) else (inside sequence, false)

/-- Read one character: how to go on, and whether it is shown. -/
def step (reading : Reading) (c : Char) : Reading × Bool :=
  if c == '\x1b' then (inside .escape, false)
  else if c == '\x18' || c == '\x1a' then (shown, false)
  else
    match reading with
    | shown => (shown, !isControl c || isSpacing c)
    | inside sequence =>
        if isControl c then interrupt sequence c else (advance sequence c, false)
    | paused sequence =>
        if isSpacing c then (paused sequence, true)
        else if isControl c then (inside sequence, false)
        else (if c.toNat < 0x80 then paused sequence else shown, true)

/-- Read one more character of a text, of which the shown characters are collected, last one
first. -/
def collect (read : Reading × List Char) (c : Char) : Reading × List Char :=
  let (next, isShown) := read.1.step c
  (next, if isShown then c :: read.2 else read.2)

end Reading

/-- The text that a terminal shows. -/
def visible (s : String) : String :=
  String.ofList (s.toList.foldl Reading.collect (.shown, [])).2.reverse

end BeanConstraints.Text
