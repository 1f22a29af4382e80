/-
# The log

The notes of a journal as lines for the error channel, each with its level in
colour. Characters that could control a terminal are written as escapes.
-/

import BeanConstraints.Journal

namespace BeanConstraints

/-- The number of the colour of a level. -/
def Level.colour : Level → String
  | trace => "35"
  | debug => "34"
  | info => "32"
  | warn => "33"

/-- Whether notes of a level are logged. -/
def Level.isLogged (verbose : Bool) : Level → Bool
  | trace => false
  | debug => verbose
  | info => true
  | warn => true

namespace Log

/-- A character in the log. -/
def characterText (c : Char) : String :=
  match c with
  | '\x07' => "\\x07"
  | '\x08' => "\\x08"
  | '\x0c' => "\\x0c"
  | '\x1b' => "\\x1b"
  | '\x7f' => "\\x7f"
  | c =>
      if 0x80 ≤ c.toNat && c.toNat < 0xA0 then
        "\\u\x7b" ++ String.ofList (Nat.toDigits 16 c.toNat) ++ "\x7d"
      else String.singleton c

/-- The line of a note. The level has room for five letters. -/
def line (level : Level) (text : String) : String :=
  let word := level.text
  let room := String.ofList (List.replicate (5 - word.length) ' ')
  s!"\x1b[{level.colour}m{room}{word}\x1b[0m " ++
    String.join (text.toList.map characterText) ++ "\n"

/-- The line of an entry, if it is logged. -/
def entryLine (verbose : Bool) : Entry → String
  | .note level text => if level.isLogged verbose then line level text else ""
  | _ => ""

end Log

/-- The log of a journal. -/
def Journal.log (verbose : Bool) (journal : Journal) : String :=
  String.join (journal.map (Log.entryLine verbose))

end BeanConstraints
