/-
# Property files

A property file is a TOML document whose table `properties` gives values to keys.
Everything else in it is ignored, and keys that the factory does not understand
are kept with a warning. Of two files one can be laid over the other; the values
of the upper one win.
-/

import BeanConstraints.Fault
import BeanConstraints.FileTree
import BeanConstraints.Journal
import BeanConstraints.Property.Value
import BeanConstraints.Toml.Document

namespace BeanConstraints

/-- The content of a property file. -/
structure PropertyFile where
  properties : Table String PropertyValue
  deriving DecidableEq, Inhabited

namespace PropertyFile

/-- No property. -/
def empty : PropertyFile := ⟨.empty⟩

/-- The properties as the factory sees them. -/
def toProperties (file : PropertyFile) : Properties :=
  file.properties.map PropertyValue.toText

/-- Lay another file over this one. -/
def merge (file other : PropertyFile) : PropertyFile :=
  ⟨file.properties.merge other.properties⟩

/-- Read every value of a list of keys and values. A later value wins. -/
def ofValues? {α : Type} (value : α → Option PropertyValue) (entries : List (String × α)) :
    Option PropertyFile := do
  let read ← entries.mapM fun entry => (value entry.2).map fun known => (entry.1, known)
  return ⟨.ofList read⟩

/-- The one field of a property file. -/
def fieldName : String := "properties"

/-- A file is written as a record of its table. -/
def toJson (file : PropertyFile) : Json :=
  .object [(fieldName,
    .object (file.properties.entries.map fun entry => (entry.1, entry.2.toJson)))]

/-- The file that a JSON value denotes: an object of plain values, as the field of a record or as
the only item of an array. Without it there is no property. -/
def ofJson? (value : Json) : Option PropertyFile :=
  let table (value : Json) : Option PropertyFile := do
    ofValues? PropertyValue.ofJson? (← value.object?)
  match value with
  | .object members =>
      match members.filter fun member => member.1 == fieldName with
      | [] => some empty
      | [member] => table member.2
      | _ => none
  | .array [] => some empty
  | .array [item] => table item
  | _ => none

/-- The key under which a moment is passed on where a table is asked for. -/
def momentKey : String := "$__toml_private_datetime"

/-- The file that a TOML document denotes. A moment in place of the table counts as a table with
the text of the moment as its only value. -/
def ofToml? (document : Toml.Entries) : Option PropertyFile :=
  match Toml.find? document fieldName with
  | none => some empty
  | some (.table _ entries) => ofValues? PropertyValue.ofToml? entries
  | some (.moment moment) => some ⟨.ofList [(momentKey, .text moment.text)]⟩
  | some _ => none

/-- The property file that a text is, if it is one. -/
def read? (text : String) : Option PropertyFile :=
  (Toml.read? text).bind ofToml?

/-- What is said about a text that is no property file. The words are those of the TOML library,
which points at the place in the text where it gave up. -/
abbrev Wording := String → String

/-- Why a property file cannot be loaded. -/
inductive LoadFault where
  | unreadable (path reason : String)
  | malformed (path reason : String)
  deriving DecidableEq, Inhabited

namespace LoadFault

/-- What was attempted. -/
def message : LoadFault → String
  | unreadable path _ => "failed to read properties file: " ++ path
  | malformed path _ => "failed to parse properties file: " ++ path

/-- What stood in the way. -/
def cause : LoadFault → String
  | unreadable _ reason => reason
  | malformed _ reason => reason

/-- Both in one line. -/
def text (fault : LoadFault) : String :=
  fault.message ++ ": " ++ fault.cause

end LoadFault

/-- The warnings on keys that the factory does not understand. -/
def unknownKeys (file : PropertyFile) (path : String) : Journal :=
  (file.properties.keys.filter fun key => !PropertyKey.isKnown key).flatMap fun key =>
    Journal.warn s!"Unknown property {Fault.ticked key} in {path}"

/-- Load the file at a path. -/
def load (files : Files) (wording : Wording) (path : String) :
    Journal × Except LoadFault PropertyFile :=
  match (files path).text with
  | .error reason => ([], .error (.unreadable path reason))
  | .ok text =>
      match read? text with
      | none => ([], .error (.malformed path (wording text)))
      | some file => (file.unknownKeys path, .ok file)

/-- Load the file at a path. One that is missing has no property, and neither has one that cannot
be loaded, which gives a warning. -/
def loadOrEmpty (files : Files) (wording : Wording) (path : String) : Journal × PropertyFile :=
  if (files path).isThere then
    match load files wording path with
    | (journal, .ok file) => (journal, file)
    | (journal, .error fault) =>
        (journal ++ Journal.warn s!"Failed to load properties from {path}: {fault.text}", empty)
  else ([], empty)

/-- The properties of a user with those of a project laid over them. -/
def loadLayers (files : Files) (wording : Wording) (user project : String) :
    Journal × PropertyFile :=
  let (first, below) := loadOrEmpty files wording user
  let (second, above) := loadOrEmpty files wording project
  (first ++ second, (empty.merge below).merge above)

/-- Load listed files, later ones over earlier ones, up to the first that cannot be loaded. -/
def loadAll (files : Files) (wording : Wording) (file : PropertyFile) :
    List String → Journal × Except LoadFault PropertyFile
  | [] => ([], .ok file)
  | path :: rest =>
      match load files wording path with
      | (journal, .error fault) => (journal, .error fault)
      | (journal, .ok other) =>
          let (later, result) := loadAll files wording (file.merge other) rest
          (journal ++ later, result)

/-- The directory of the user: the one that is given, or else the one that the system has on
record. An empty one counts as none. -/
def homeDirectory (recorded given : Option String) : Option String :=
  let named (directory : Option String) : Option String :=
    directory.filter fun path => !path.isEmpty
  (named given).or (named recorded)

/-- The directory of a user's or a project's settings, inside their own directory. -/
def settingsDirectory (directory : String) : String :=
  Files.join directory ".vfactory"

/-- The property file in the settings of a user or a project. -/
def settingsPath (directory : String) : String :=
  Files.join (settingsDirectory directory) "properties.toml"

end PropertyFile

end BeanConstraints
