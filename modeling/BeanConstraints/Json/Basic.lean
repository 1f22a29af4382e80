/-
# JSON values

The data that JSON texts denote. Members of an object keep their order and their
repetitions, since a record refuses a repeated field. Two kinds of token are
grammatical and still carry no datum of this library: numbers that are not plain
integers, which keep their text, and strings with an unpaired surrogate.
-/

namespace BeanConstraints

/-- A JSON value. -/
inductive Json where
  | null
  | bool (b : Bool)
  /-- A number written as an integer. Minus zero is not one of them. -/
  | integer (n : Int)
  /-- Any other number, as its text. -/
  | decimal (literal : String)
  | string (s : String)
  | array (items : List Json)
  | object (members : List (String × Json))
  /-- A string, or an object with a key, whose escapes leave a surrogate unpaired. It can be
  skipped but denotes nothing. -/
  | unpaired
  deriving Inhabited

namespace Json

/-- The value as a truth value. -/
def bool? : Json → Option Bool
  | bool b => some b
  | _ => none

/-- The value as a text. -/
def string? : Json → Option String
  | string s => some s
  | _ => none

/-- The value as a natural number. -/
def nat? : Json → Option Nat
  | integer n => n.toNat?
  | _ => none

/-- The value as an integer of 64 bits. -/
def int64? : Json → Option Int64
  | integer n =>
      if Int64.minValue.toInt ≤ n ∧ n ≤ Int64.maxValue.toInt then some (Int64.ofInt n) else none
  | _ => none

/-- The value as members of an object. -/
def object? : Json → Option (List (String × Json))
  | object members => some members
  | _ => none

/-- The one value of a field. A field that is missing or repeated has none. -/
def field? (members : List (String × Json)) (name : String) : Option Json :=
  match members.filter (fun entry => entry.1 == name) with
  | [entry] => some entry.2
  | _ => none

/-- The values of all fields of a record: by name from an object, whose other members do not
matter, or by position from an array of exactly that many items. -/
def record? (names : List String) : Json → Option (List Json)
  | object members => names.mapM (field? members)
  | array items => if items.length = names.length then some items else none
  | _ => none

/-- An array of texts. -/
def strings (items : List String) : Json :=
  array (items.map string)

/-- A natural number. -/
def nat (n : Nat) : Json :=
  integer n

end Json

end BeanConstraints
