/-
# Constraint mappings

A mapping is what one source says about constraints: definitions, each giving
checkers for a constraint, and placements on the elements of beans. Every mapping
has an identity of its own, drawn from a counter; a copy is a new mapping.
-/

import BeanConstraints.Mapping.Element

namespace BeanConstraints

/-- Where a mapping comes from. -/
inductive Origin where
  /-- Handed over with the configuration. -/
  | preSupplied
  /-- Made by a contributor that the component loader offered. -/
  | discovered (contributor : String)
  /-- Made by a contributor that a property names. -/
  | propertyNamed (contributor : String)
  deriving DecidableEq, Inhabited

namespace Origin

/-- The origin as notes and diagnostics name it. -/
def text : Origin → String
  | preSupplied => "programmatic configuration"
  | discovered name => "discovered contributor \x60" ++ name ++ "\x60"
  | propertyNamed name => "property-configured contributor \x60" ++ name ++ "\x60"

/-- An origin is written as a record of its kind and its contributor. -/
def toJson : Origin → Json
  | preSupplied => .object [("kind", .string "pre-supplied")]
  | discovered name => .object [("kind", .string "discovered"), ("name", .string name)]
  | propertyNamed name => .object [("kind", .string "property-named"), ("name", .string name)]

/-- The origin that a record denotes. -/
def ofJson? (value : Json) : Option Origin := do
  let members ← value.object?
  let text (name : String) : Option String := do (← Json.field? members name).string?
  match ← text "kind" with
  | "pre-supplied" => return preSupplied
  | "discovered" => return discovered (← text "name")
  | "property-named" => return propertyNamed (← text "name")
  | _ => none

end Origin

/-- Checkers contributed for one constraint. -/
structure Definition where
  constraint : Constraint
  checkers : List Checker := []
  /-- Checkers that are already active stay, before the contributed ones. -/
  keepExisting : Bool := true
  deriving DecidableEq, Inhabited

/-- A definition is written as a record of its three parts. -/
def Definition.toJson (definition : Definition) : Json :=
  .object [("type", definition.constraint.toJson),
    ("include_existing", .bool definition.keepExisting),
    ("validators", .array (definition.checkers.map Checker.toJson))]

/-- The identity of a mapping. -/
abbrev MappingId := UInt64

/-- A constraint mapping. -/
structure Mapping where
  id : MappingId
  origin : Origin
  definitions : List Definition := []
  beans : List BeanPlacements := []
  deriving DecidableEq

namespace Mapping

instance : Inhabited Mapping := ⟨⟨0, .preSupplied, [], []⟩⟩

/-- The identity as reports name it. -/
def idText (id : MappingId) : String :=
  s!"mapping#{id.toNat}"

/-- The identity is written as a number. -/
def idJson (id : MappingId) : Json :=
  .nat id.toNat

/-- A mapping is written with all that it says, and with its origin in words. -/
def toJson (mapping : Mapping) : Json :=
  .object [("id", idJson mapping.id), ("source", mapping.origin.toJson),
    ("source_text", .string mapping.origin.text),
    ("definitions", .array (mapping.definitions.map Definition.toJson)),
    ("beans", .array (mapping.beans.map BeanPlacements.toJson))]

/-- Add a definition. A second definition of one constraint is not refused here: registration
reports it, knowing all mappings. -/
def define (mapping : Mapping) (definition : Definition) : Mapping :=
  { mapping with definitions := mapping.definitions ++ [definition] }

/-- Add placements to those of a bean type, which get an entry if they have none. -/
def addTo (typeName : String) (placements : List Placement) :
    List BeanPlacements → List BeanPlacements
  | [] => [⟨typeName, placements⟩]
  | bean :: rest =>
      if bean.typeName = typeName then ⟨typeName, bean.placements ++ placements⟩ :: rest
      else bean :: addTo typeName placements rest

/-- Place constraints on elements of a bean type, after those already placed. -/
def place (mapping : Mapping) (typeName : String) (placements : List Placement) : Mapping :=
  { mapping with beans := addTo typeName placements mapping.beans }

/-- The placements for a bean type, if the mapping has an entry for it. -/
def bean? (mapping : Mapping) (typeName : String) : Option BeanPlacements :=
  mapping.beans.find? fun bean => bean.typeName == typeName

/-- The same content under another identity. -/
def copy (mapping : Mapping) (id : MappingId) : Mapping :=
  { mapping with id := id }

end Mapping

/-- What is to be put on a new mapping: its definitions, then placements bean by bean. -/
structure MappingDraft where
  definitions : List Definition := []
  beans : List BeanPlacements := []
  deriving DecidableEq, Inhabited

/-- Put all that a draft holds on a mapping. -/
def Mapping.fill (mapping : Mapping) (draft : MappingDraft) : Mapping :=
  draft.beans.foldl (fun mapping bean => mapping.place bean.typeName bean.placements)
    (draft.definitions.foldl define mapping)

/-- Mappings in the order in which they were added, no two with one identity. -/
structure MappingSet where
  mappings : List Mapping := []
  deriving Inhabited

namespace MappingSet

/-- Add a mapping, unless one of its identity is there. The answer says whether it was added. -/
def insert (set : MappingSet) (mapping : Mapping) : MappingSet × Bool :=
  if set.mappings.any (fun present => present.id == mapping.id) then (set, false)
  else (⟨set.mappings ++ [mapping]⟩, true)

/-- Add a mapping whose identity was drawn for this set. -/
def append (set : MappingSet) (mapping : Mapping) : MappingSet :=
  ⟨set.mappings ++ [mapping]⟩

end MappingSet

/-- Mappings that no longer change. -/
structure SealedMappings where
  mappings : List Mapping := []
  deriving DecidableEq, Inhabited

/-- Freeze a set in its order. -/
def MappingSet.seal (set : MappingSet) : SealedMappings :=
  ⟨set.mappings⟩

namespace SealedMappings

/-- The number of mappings. -/
def size (sealed : SealedMappings) : Nat :=
  sealed.mappings.length

/-- Whether there is no mapping. -/
def isEmpty (sealed : SealedMappings) : Bool :=
  sealed.mappings.isEmpty

/-- Every definition with the origin of its mapping, in mapping order, then in the order within
the mapping. -/
def definitions (sealed : SealedMappings) : List (Origin × Definition) :=
  sealed.mappings.flatMap fun mapping =>
    mapping.definitions.map fun definition => (mapping.origin, definition)

/-- The constraints that definitions contribute to, in the order of registration. -/
def contributed (sealed : SealedMappings) : List Constraint :=
  sealed.definitions.map fun entry => entry.2.constraint

end SealedMappings

end BeanConstraints
