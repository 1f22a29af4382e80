/-
# TOML values

The data that TOML documents denote. A table remembers how it came to be, since
that decides what a later line may still add to it: a table in braces is closed,
a table with a header takes no dotted key from outside, and a table that was only
passed through may still get its header.
-/

import BeanConstraints.Toml.Moment

namespace BeanConstraints

/-- How a table came to be. -/
inductive Toml.Form where
  /-- Written in braces, and complete. -/
  | inline
  /-- Opened by its own header. -/
  | header
  /-- Passed through by the header of a table inside it. -/
  | implied
  /-- Passed through by a dotted key. -/
  | dotted
  deriving BEq, DecidableEq, Inhabited

/-- A TOML value. Floats keep their text. -/
inductive Toml where
  | string (s : String)
  | integer (n : Int64)
  | boolean (b : Bool)
  | float (literal : String)
  | moment (moment : Toml.Moment)
  | array (items : List Toml)
  | table (form : Toml.Form) (entries : List (String × Toml))
  /-- An array of tables, each opened by a header in double brackets. -/
  | tables (elements : List (List (String × Toml)))
  deriving Inhabited

namespace Toml

/-- The keys and values of a table. -/
abbrev Entries := List (String × Toml)

/-- The value of a key. -/
def find? (entries : Entries) (key : String) : Option Toml :=
  (entries.find? fun entry => entry.1 == key).map Prod.snd

/-- Replace the value of a key that is there. -/
def replace (entries : Entries) (key : String) (value : Toml) : Entries :=
  entries.map fun entry => if entry.1 == key then (key, value) else entry

/-- Change the table at the end of a path, with a result of its own. Tables that the path does
not find are made, by dotted keys as dotted ones and by headers as implied ones. The last table
of an array of tables stands for the array. A dotted path may not enter a table that has its own
header, and no path enters a table in braces. -/
def within {α : Type} (made : Form) (change : Form → Entries → Option (Entries × α)) :
    List String → Form → Entries → Option (Entries × α)
  | [], form, entries => change form entries
  | key :: path, _, entries =>
      match find? entries key with
      | none => do
          let (inner, result) ← within made change path made []
          return (entries ++ [(key, table made inner)], result)
      | some (table form inner) => do
          if form = .inline || (made = .dotted && form = .header) then none
          let (inner, result) ← within made change path form inner
          return (replace entries key (table form inner), result)
      | some (tables elements) => do
          let last ← elements.getLast?
          let (last, result) ← within made change path .header last
          return (replace entries key (tables (elements.dropLast ++ [last])), result)
      | some _ => none

/-- Add a value under a dotted key. The value has to be new, and the tables on the way have to
belong to dotted keys. -/
def addKey? (path : List String) (key : String) (value : Toml) (entries : Entries) :
    Option Entries := do
  let (entries, _) ← within .dotted (fun found inner => do
    if (found == .dotted) == path.isEmpty then none
    if (find? inner key).isSome then none
    return (inner ++ [(key, value)], ())) path .header entries
  return entries

end Toml

end BeanConstraints
