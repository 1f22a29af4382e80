/-
# Diagnostics

Messages for people: what was wrong, where it came from and what to do about it.
The plain and the coloured form differ in the escape sequences around the
severity and the word that opens the suggestions.
-/

import BeanConstraints.Json.Basic

namespace BeanConstraints

/-- How bad it is. -/
inductive Severity where
  | error
  | warning
  | note
  deriving DecidableEq, Inhabited

namespace Severity

/-- The word for the severity. -/
def text : Severity → String
  | error => "error"
  | warning => "warning"
  | note => "note"

/-- The colour of the severity on a terminal. -/
def colour : Severity → String
  | error => "31"
  | warning => "33"
  | note => "36"

end Severity

/-- A message with what explains it and what may mend it. -/
structure Diagnostic where
  severity : Severity
  message : String
  context : List String := []
  suggestions : List String := []
  /-- The file that the matter was read from. -/
  location : Option String := none
  deriving DecidableEq, Inhabited

namespace Diagnostic

/-- An error without explanation yet. -/
def error (message : String) : Diagnostic := { severity := .error, message }

/-- Add a line of explanation. -/
def withContext (diagnostic : Diagnostic) (line : String) : Diagnostic :=
  { diagnostic with context := diagnostic.context ++ [line] }

/-- Add a way to mend the matter. -/
def withSuggestion (diagnostic : Diagnostic) (line : String) : Diagnostic :=
  { diagnostic with suggestions := diagnostic.suggestions ++ [line] }

/-- A word in bold and in a colour, or as it is. -/
def painted (inColour : Bool) (colour word : String) : String :=
  if inColour then "\x1b[1;" ++ colour ++ "m" ++ word ++ "\x1b[0m" else word

/-- Lines numbered from `first` on. -/
def numbered (first : Nat) : List String → List String
  | [] => []
  | line :: rest => s!"  {first}. {line}\n" :: numbered (first + 1) rest

/-- The part on suggestions, empty if there are none. -/
def help (inColour : Bool) (suggestions : List String) : String :=
  if suggestions.isEmpty then ""
  else "\n" ++ painted inColour "32" "help" ++ ": consider:\n" ++
    String.join (numbered 1 suggestions)

/-- The line on the file, if one is known. -/
def locationLine : Option String → String
  | none => ""
  | some file => s!"  --> {file}\n"

/-- The whole diagnostic, one matter per line. -/
def render (diagnostic : Diagnostic) (inColour : Bool) : String :=
  painted inColour diagnostic.severity.colour diagnostic.severity.text ++ ": " ++
    diagnostic.message ++ "\n" ++ locationLine diagnostic.location ++
    String.join (diagnostic.context.map fun line => s!"  = {line}\n") ++
    help inColour diagnostic.suggestions

/-- A diagnostic is written as a record of its severity and its lines. -/
def toJson (diagnostic : Diagnostic) : Json :=
  .object [("severity", .string diagnostic.severity.text),
    ("message", .string diagnostic.message), ("context", .strings diagnostic.context),
    ("suggestions", .strings diagnostic.suggestions)]

/-- The plain form. -/
def text (diagnostic : Diagnostic) : String :=
  diagnostic.render false

end Diagnostic

end BeanConstraints
