/-
# Digits

Reading digit runs in bases up to 16, and writing numbers of a fixed width. The
grammars of the documents this library reads admit ASCII digits only, so no other
digit of Unicode counts.
-/

namespace BeanConstraints.Text

/-- The value of an ASCII digit in bases up to 16. -/
def digitValue? (c : Char) : Option Nat :=
  if '0' ≤ c && c ≤ '9' then some (c.toNat - 48)
  else if 'a' ≤ c && c ≤ 'f' then some (c.toNat - 87)
  else if 'A' ≤ c && c ≤ 'F' then some (c.toNat - 55)
  else none

/-- A digit of the given base. -/
def isDigitIn (base : Nat) (c : Char) : Bool :=
  match digitValue? c with
  | some d => d < base
  | none => false

/-- The number that digits write, most significant first. -/
def ofDigits (base : Nat) (cs : List Char) : Nat :=
  cs.foldl (fun n c => n * base + (digitValue? c).getD 0) 0

/-- The number that exactly so many digits in base 16 write at the head of a text, and what
follows them. -/
def hexNumber? (count : Nat) (cs : List Char) : Option (Nat × List Char) :=
  let digits := cs.take count
  if digits.length = count && digits.all (isDigitIn 16) then
    some (ofDigits 16 digits, cs.drop count)
  else none

/-- A number in decimal digits, with zeros in front up to the given width. -/
def padded (width n : Nat) : String :=
  let digits := Nat.toDigits 10 n
  String.ofList (List.replicate (width - digits.length) '0' ++ digits)

/-- The character of a code point, unless it is a surrogate or beyond the last plane. -/
def charOf? (n : Nat) : Option Char :=
  if n < 0xD800 || (0xE000 ≤ n && n < 0x110000) then some (Char.ofNat n) else none

end BeanConstraints.Text
