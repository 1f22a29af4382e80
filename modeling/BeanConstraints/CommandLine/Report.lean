/-
# Reports

What the commands print, as lines for people or as JSON for programs: the state
of a factory with the properties that led to it, and the built-in constraints.
-/

import BeanConstraints.Factory.Basic
import BeanConstraints.Json.Printer

namespace BeanConstraints.CommandLine

/-- A line with its end. -/
def lineOf (text : String) : String :=
  text ++ "\n"

/-- Lines, each with its end. -/
def linesOf (texts : List String) : String :=
  String.join (texts.map lineOf)

/-- The listing of the constraints of a registry. -/
def constraintsText (registry : Registry) : String :=
  lineOf s!"Built-in constraints ({registry.size}):" ++
    String.join (registry.checkers.entries.map fun entry =>
      linesOf (["", s!"  {entry.1.simpleName} ({entry.1.name})"] ++
        entry.2.map fun checker => "    " ++ checker.text))

/-- What a factory came to, and from which properties. -/
structure Inspection where
  properties : Properties
  factory : Factory

namespace Inspection

/-- The providers by their roles, in the order of the roles' names. -/
def providers (inspection : Inspection) : List (String × String) :=
  let settings := inspection.factory.settings
  [("clock-provider", settings.clock.role.label),
    ("constraint-validator-factory", settings.validators.role.label),
    ("message-interpolator", settings.interpolator.role.label),
    ("parameter-name-provider", settings.naming.role.label),
    ("script-evaluator-factory", settings.scripts.role.label),
    ("traversable-resolver", settings.traversal.role.label)]

/-- A mapping in short. -/
def mappingJson (mapping : Mapping) : Json :=
  .object [("id", Mapping.idJson mapping.id), ("source", mapping.origin.toJson),
    ("constraint_definitions",
      .array (mapping.definitions.map fun definition => definition.constraint.toJson)),
    ("beans", Json.strings (mapping.beans.map fun bean => bean.typeName))]

/-- The report as one object. -/
def toJson (inspection : Inspection) : Json :=
  let factory := inspection.factory
  .object [("properties", Properties.toJson inspection.properties),
    ("configuration", factory.settings.flags.toJson),
    ("providers",
      .object (inspection.providers.map fun entry => (entry.1, .string entry.2))),
    ("mappings", .array (factory.mappings.mappings.map mappingJson)),
    ("constraints", factory.registry.toJson)]

/-- The part on properties. -/
def propertiesText (inspection : Inspection) : String :=
  linesOf (["Properties:"] ++
    (if inspection.properties.isEmpty then ["  (none)"] else []) ++
    (inspection.properties.entries.map fun entry => s!"  {entry.1} = {entry.2}") ++ [""])

/-- The part on flags. -/
def flagsText (flags : Flags) : String :=
  let rules := flags.rules
  linesOf ["Effective configuration:",
    s!"  fail fast: {flags.failFast}",
    s!"  allow parameter constraint override: {rules.parameterOverride}",
    s!"  allow multiple cascaded validation on result: {rules.multipleCascade}",
    s!"  allow parallel method parameter constraints: {rules.parallelParameters}",
    s!"  traversable resolver result cache: {flags.resultCache}",
    ""]

/-- The part on providers. -/
def providersText (inspection : Inspection) : String :=
  linesOf (["Providers:"] ++
    (inspection.providers.map fun entry => s!"  {entry.1}: {entry.2}") ++ [""])

/-- The line on a mapping. -/
def mappingLine (mapping : Mapping) : String :=
  let definitions := mapping.definitions.length
  let beans := mapping.beans.length
  s!"  {Mapping.idText mapping.id} from {mapping.origin.text}: " ++
    s!"{definitions} definition(s), {beans} bean(s)"

/-- The part on mappings. -/
def mappingsText (mappings : SealedMappings) : String :=
  linesOf ([s!"Constraint mappings ({mappings.size}):"] ++
    mappings.mappings.map mappingLine ++ [""])

/-- The part on the registry. -/
def registryText (registry : Registry) : String :=
  linesOf ([s!"Constraint registry ({registry.size} types):"] ++
    registry.checkers.entries.flatMap fun entry =>
      ("  " ++ entry.1.name) :: entry.2.map fun checker => "    " ++ checker.text)

/-- The report as lines. -/
def text (inspection : Inspection) : String :=
  let factory := inspection.factory
  inspection.propertiesText ++ flagsText factory.settings.flags ++ inspection.providersText ++
    mappingsText factory.mappings ++ registryText factory.registry

end Inspection

end BeanConstraints.CommandLine
