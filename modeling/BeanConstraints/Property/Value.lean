/-
# Property values

A property file may give a property as a flag, as a number or as a text. The
factory sees texts only, but a file keeps what it was given: the text "true" and
the flag are two values with one text.
-/

import BeanConstraints.Json.Basic
import BeanConstraints.Toml.Basic

namespace BeanConstraints

/-- A value as a property file gives it. -/
inductive PropertyValue where
  | flag (b : Bool)
  | number (n : Int64)
  | text (s : String)
  deriving DecidableEq, Inhabited

namespace PropertyValue

/-- The value as the factory sees it. -/
def toText : PropertyValue → String
  | flag b => toString b
  | number n => toString n.toInt
  | text s => s

/-- A value is written as a plain JSON value of its own kind. -/
def toJson : PropertyValue → Json
  | flag b => .bool b
  | number n => .integer n.toInt
  | text s => .string s

/-- What a plain JSON value may denote, in the order in which it is tried. Nothing but its own kind
tells a value apart. -/
def readings : List (Json → Option PropertyValue) := [
  fun value => value.bool?.map flag,
  fun value => value.int64?.map number,
  fun value => value.string?.map text]

/-- The value that a plain JSON value denotes, by the first reading that succeeds. A number has to
fit into 64 bits. -/
def ofJson? (value : Json) : Option PropertyValue :=
  readings.findSome? fun reading => reading value

/-- The value that a plain TOML value denotes. -/
def ofToml? : Toml → Option PropertyValue
  | .boolean b => some (flag b)
  | .integer n => some (number n)
  | .string s => some (text s)
  | _ => none

end PropertyValue

end BeanConstraints
