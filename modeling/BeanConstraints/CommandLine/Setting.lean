/-
# Settings on the command line

A setting gives a property its value, as a key and a value around the first sign
of equality. Blanks around both do not count, and the key may not be empty.
-/

import BeanConstraints.Fault
import BeanConstraints.Text.Blank

namespace BeanConstraints.CommandLine

/-- Why a text is no setting. -/
inductive SettingFault where
  | noEquals (given : String)
  | emptyKey (given : String)
  deriving DecidableEq, Inhabited

/-- The text that was given. -/
def SettingFault.given : SettingFault → String
  | noEquals given => given
  | emptyKey given => given

/-- The fault in one line. -/
def SettingFault.message : SettingFault → String
  | noEquals given => "expected KEY=VALUE, got " ++ Fault.ticked given
  | emptyKey given => "empty property key in " ++ Fault.ticked given

/-- A property and its value. -/
structure Setting where
  key : String
  value : String
  deriving DecidableEq, Inhabited

/-- The characters before the first sign of equality and those behind it, if there is one. -/
def splitAtEquals : List Char → Option (List Char × List Char)
  | [] => none
  | c :: rest =>
      if c = '=' then some ([], rest)
      else (splitAtEquals rest).map fun parts => (c :: parts.1, parts.2)

/-- Read a setting. -/
def Setting.read (given : String) : Except SettingFault Setting :=
  match splitAtEquals given.toList with
  | none => .error (.noEquals given)
  | some (key, value) =>
      match Text.trimChars key with
      | [] => .error (.emptyKey given)
      | key => .ok ⟨String.ofList key, String.ofList (Text.trimChars value)⟩

end BeanConstraints.CommandLine
