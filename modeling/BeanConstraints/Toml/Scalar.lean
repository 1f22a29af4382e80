/-
# Numbers and moments of TOML documents

Numbers are integers of 64 bits or floats; moments are dates, times and both
together. Values that no document may hold are refused here: an integer out of
range, a float that rounds to positive infinity, a day that its month lacks.
-/

import BeanConstraints.Text.Digits
import BeanConstraints.Toml.Basic
import BeanConstraints.Toml.Lexeme

namespace BeanConstraints.Toml

/-- A run of digits, single underscores between digits dropped, and what follows it. -/
def digitRun (base : Nat) : List Char → List Char × List Char
  | [] => ([], [])
  | '_' :: d :: rest =>
      if Text.isDigitIn base d then digitRun base (d :: rest) else ([], '_' :: d :: rest)
  | c :: rest =>
      if Text.isDigitIn base c then prepend c (digitRun base rest) else ([], c :: rest)

/-- A run of digits that starts with one. -/
def digits? (base : Nat) : List Char → Option (List Char × List Char)
  | [] => none
  | c :: rest => if Text.isDigitIn base c then some (digitRun base (c :: rest)) else none

/-- A run of decimal digits. A leading zero stands alone. -/
def wholeDigits? : List Char → Option (List Char × List Char)
  | '0' :: rest => some (['0'], rest)
  | cs => digits? 10 cs

/-- A sign, if there is one: whether the number is negative, and what follows. -/
def signed : List Char → Bool × List Char
  | '-' :: rest => (true, rest)
  | '+' :: rest => (false, rest)
  | cs => (false, cs)

/-- The integer that a sign and a size denote, if 64 bits hold it. -/
def integerOf? (negative : Bool) (size : Nat) : Option Toml :=
  if negative then
    if size ≤ Nat.pow 2 63 then some (.integer (Int64.ofInt (-(size : Int)))) else none
  else if size < Nat.pow 2 63 then some (.integer (Int64.ofInt size)) else none

/-- An integer and what follows it. Only decimal integers have a sign. -/
def integer? (cs : List Char) : Option (Toml × List Char) :=
  let inBase (base : Nat) (rest : List Char) : Option (Toml × List Char) := do
    let (run, rest) ← digits? base rest
    let n ← integerOf? false (Text.ofDigits base run)
    return (n, rest)
  match cs with
  | '0' :: 'x' :: rest => inBase 16 rest
  | '0' :: 'o' :: rest => inBase 8 rest
  | '0' :: 'b' :: rest => inBase 2 rest
  | cs => do
      let (negative, rest) := signed cs
      let (run, rest) ← wholeDigits? rest
      let n ← integerOf? negative (Text.ofDigits 10 run)
      return (n, rest)

/-- The exponent of a float and what follows it: the exponent's sign and digits. -/
def exponent? : List Char → Option ((Bool × List Char) × List Char)
  | e :: rest =>
      if e == 'e' || e == 'E' then do
        let (negative, rest) := signed rest
        let (run, rest) ← digits? 10 rest
        return ((negative, run), rest)
      else none
  | [] => none

/-- The fraction of a float and what follows it. -/
def fraction? : List Char → Option (List Char × List Char)
  | '.' :: rest => digits? 10 rest
  | _ => none

/-- Whether digits times a power of ten round to infinity in 64 bits. The least such number lies
half a unit above the largest finite one. Away from the power of ten next to that bound, the
count of digits decides. -/
def exceedsFloats (digits : List Char) (power : Int) : Bool :=
  let digits := digits.dropWhile (· == '0')
  let size := Text.ofDigits 10 digits
  let bound := Nat.pow 2 1024 - Nat.pow 2 970
  let magnitude := digits.length + power
  if size = 0 || magnitude < 309 then false
  else if 309 < magnitude then true
  else if 0 ≤ power then bound ≤ size * Nat.pow 10 power.toNat
  else bound * Nat.pow 10 (-power).toNat ≤ size

/-- A float with digits and what follows it: whole digits with an exponent, a fraction or both. -/
def decimal? (cs : List Char) : Option (Toml × List Char) := do
  let (negative, rest) := signed cs
  let (whole, rest) ← wholeDigits? rest
  let (fraction, afterFraction) := (fraction? rest).getD ([], rest)
  let ((below, exponent), afterExponent) :=
    (exponent? afterFraction).getD ((false, []), afterFraction)
  if fraction.isEmpty && exponent.isEmpty then none
  let size : Int := Text.ofDigits 10 exponent
  let power := (if below then -size else size) - fraction.length
  if !negative && exceedsFloats (whole ++ fraction) power then none
  return (.float (String.ofList (cs.take (cs.length - afterExponent.length))), afterExponent)

/-- One of the floats without digits and what follows it. -/
def specialFloat? (cs : List Char) : Option (Toml × List Char) :=
  match signed cs with
  | (_, 'i' :: 'n' :: 'f' :: rest) => some (.float "inf", rest)
  | (_, 'n' :: 'a' :: 'n' :: rest) => some (.float "nan", rest)
  | _ => none

/-- A number of exactly so many decimal digits, within bounds, and what follows it. -/
def fixed? (count low high : Nat) (cs : List Char) : Option (Nat × List Char) :=
  let digits := cs.take count
  let n := Text.ofDigits 10 digits
  if digits.length = count && digits.all (Text.isDigitIn 10) && low ≤ n && n ≤ high then
    some (n, cs.drop count)
  else none

/-- What follows a character that has to stand here. -/
def expect? (c : Char) : List Char → Option (List Char)
  | d :: rest => if c = d then some rest else none
  | [] => none

/-- The days of a month. -/
def daysIn (year month : Nat) : Nat :=
  match month with
  | 2 => if year % 4 = 0 && (year % 100 != 0 || year % 400 = 0) then 29 else 28
  | 4 | 6 | 9 | 11 => 30
  | _ => 31

/-- A date and what follows it. -/
def date? (cs : List Char) : Option (Date × List Char) := do
  let (year, rest) ← fixed? 4 0 9999 cs
  let rest ← expect? '-' rest
  let (month, rest) ← fixed? 2 1 12 rest
  let rest ← expect? '-' rest
  let (day, rest) ← fixed? 2 1 (daysIn year month) rest
  return (⟨year, month, day⟩, rest)

/-- The nanoseconds that the digits of a fraction write. Digits beyond the ninth do not count. -/
def nanoseconds (digits : List Char) : Nat :=
  let digits := digits.take 9
  Text.ofDigits 10 digits * Nat.pow 10 (9 - digits.length)

/-- The nanoseconds of a fraction of a second, if one stands here, and what follows. -/
def secondFraction (cs : List Char) : Nat × List Char :=
  match cs with
  | '.' :: rest =>
      match rest.span (Text.isDigitIn 10) with
      | ([], _) => (0, cs)
      | (digits, rest) => (nanoseconds digits, rest)
  | _ => (0, cs)

/-- A time of day and what follows it. A leap second is one of its seconds. -/
def timeOfDay? (cs : List Char) : Option (TimeOfDay × List Char) := do
  let (hour, rest) ← fixed? 2 0 23 cs
  let rest ← expect? ':' rest
  let (minute, rest) ← fixed? 2 0 59 rest
  let rest ← expect? ':' rest
  let (second, rest) ← fixed? 2 0 60 rest
  let (nanosecond, rest) := secondFraction rest
  return (⟨hour, minute, second, nanosecond⟩, rest)

/-- The distance of a time zone in minutes and what follows it. -/
def distance? (cs : List Char) : Option (Nat × List Char) := do
  let (hours, rest) ← fixed? 2 0 23 cs
  let rest ← expect? ':' rest
  let (minutes, rest) ← fixed? 2 0 59 rest
  return (hours * 60 + minutes, rest)

/-- A time zone and what follows it. -/
def zone? : List Char → Option (Zone × List Char)
  | 'Z' :: rest => some (.universal, rest)
  | 'z' :: rest => some (.universal, rest)
  | '+' :: rest => (distance? rest).map fun read => (.ahead read.1, read.2)
  | '-' :: rest => (distance? rest).map fun read => (.ahead (-(read.1 : Int)), read.2)
  | _ => none

/-- The time of day that goes with a date, with its zone, and what follows. A letter or a blank
separates them from the date. -/
def timeAfterDate? : List Char → Option ((TimeOfDay × Option Zone) × List Char)
  | c :: rest =>
      if c == 'T' || c == 't' || c == ' ' then do
        let (time, rest) ← timeOfDay? rest
        match zone? rest with
        | some (zone, rest) => return ((time, some zone), rest)
        | none => return ((time, none), rest)
      else none
  | [] => none

/-- A moment and what follows it. -/
def moment? (cs : List Char) : Option (Moment × List Char) :=
  match date? cs with
  | some (date, rest) =>
      match timeAfterDate? rest with
      | some ((time, zone), rest) => some (.both date time zone, rest)
      | none => some (.date date, rest)
  | none => (timeOfDay? cs).map fun read => (.time read.1, read.2)

/-- A number or a moment and what follows it. -/
def numeric? (cs : List Char) : Option (Toml × List Char) :=
  match moment? cs with
  | some (read, rest) => some (.moment read, rest)
  | none => decimal? cs <|> specialFloat? cs <|> integer? cs

end BeanConstraints.Toml
