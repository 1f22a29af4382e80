/-
# Writing JSON

The two layouts of JSON output: all on one line, and indented by two blanks per
level. Both escape quotes, backslashes and control characters, and nothing else.
-/

import BeanConstraints.Json.Basic
import BeanConstraints.Text.Quoted

namespace BeanConstraints.Json

/-- How one character stands in a string. -/
def escaped (c : Char) : List Char :=
  if c = '"' then ['\\', '"']
  else if c = '\\' then ['\\', '\\']
  else if c = '\x08' then ['\\', 'b']
  else if c = '\x0c' then ['\\', 'f']
  else if c = '\n' then ['\\', 'n']
  else if c = '\r' then ['\\', 'r']
  else if c = '\t' then ['\\', 't']
  else if c.toNat < 0x20 then
    ['\\', 'u', '0', '0', Text.hexDigit (c.toNat / 16), Text.hexDigit (c.toNat % 16)]
  else [c]

/-- A string with its quotes. -/
def stringLiteral (s : String) : String :=
  String.ofList ('"' :: s.toList.flatMap escaped ++ ['"'])

mutual

/-- A value on one line. -/
def compact : Json → String
  | null => "null"
  | bool b => if b then "true" else "false"
  | integer n => toString n
  | decimal literal => literal
  | string s => stringLiteral s
  | array items => "[" ++ ",".intercalate (compactItems items) ++ "]"
  | object members => "\x7b" ++ ",".intercalate (compactMembers members) ++ "\x7d"
  | unpaired => "null"

/-- The items of an array, each on one line. -/
def compactItems : List Json → List String
  | [] => []
  | item :: rest => compact item :: compactItems rest

/-- The members of an object, each on one line. -/
def compactMembers : List (String × Json) → List String
  | [] => []
  | (key, item) :: rest => (stringLiteral key ++ ":" ++ compact item) :: compactMembers rest

end

/-- A new line indented by so many levels. -/
def newline (depth : Nat) : String :=
  String.ofList ('\n' :: List.replicate (2 * depth) ' ')

mutual

/-- A value with one item or member per line, inside so many levels. Empty arrays and objects
stay on one line. -/
def indented (depth : Nat) : Json → String
  | array [] => "[]"
  | array (item :: rest) =>
      "[" ++ ",".intercalate (indentedItems (depth + 1) (item :: rest)) ++ newline depth ++ "]"
  | object [] => "\x7b\x7d"
  | object (member :: rest) =>
      "\x7b" ++ ",".intercalate (indentedMembers (depth + 1) (member :: rest)) ++
        newline depth ++ "\x7d"
  | null => "null"
  | bool b => if b then "true" else "false"
  | integer n => toString n
  | decimal literal => literal
  | string s => stringLiteral s
  | unpaired => "null"

/-- The items of an array, each on a line of its own. -/
def indentedItems (depth : Nat) : List Json → List String
  | [] => []
  | item :: rest => (newline depth ++ indented depth item) :: indentedItems depth rest

/-- The members of an object, each on a line of its own. -/
def indentedMembers (depth : Nat) : List (String × Json) → List String
  | [] => []
  | (key, item) :: rest =>
      (newline depth ++ stringLiteral key ++ ": " ++ indented depth item) ::
        indentedMembers depth rest

end

/-- A value with one item or member per line. -/
def pretty (value : Json) : String :=
  indented 0 value

end BeanConstraints.Json
