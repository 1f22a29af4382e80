/-
# What a report says

The report of an inspection in both of its forms: as lines, which stand here as a
user sees them, and as a JSON value under the names that a program finds. Both are
made of the same parts: the properties, the flags in effect, the providers, the
mappings and the registry. Without components only the properties and the flags differ
from one report to the next.

The JSON form can be read back, so nothing of the value is lost on the way.
-/

import BeanConstraints.CommandLine.Run
import BeanConstraints.Proofs.Decoding
import BeanConstraints.Proofs.Obstacles

namespace BeanConstraints

/-- A value on lines of its own is read back with the end of the last line behind it. -/
theorem Json.Written.read?_lineOf {value : Json} (written : Written value) :
    Json.read? (CommandLine.lineOf value.pretty) = some value := by
  refine read?_of_spells (written.indented 0) blank_nil (blank_newline 0) ?_
  rw [CommandLine.lineOf, String.toList_append]
  rfl

/-- An object of texts is written, as the properties and the providers are. -/
theorem Json.Written.texts (entries : List (String × String)) :
    Written (.object (entries.map fun entry => (entry.1, .string entry.2))) := by
  refine .object fun member within => ?_
  obtain ⟨entry, -, rfl⟩ := List.mem_map.mp within
  exact .string entry.2

theorem Origin.written (origin : Origin) : Json.Written origin.toJson := by
  cases origin with
  | preSupplied => exact .texts [("kind", "pre-supplied")]
  | discovered name => exact .texts [("kind", "discovered"), ("name", name)]
  | propertyNamed name => exact .texts [("kind", "property-named"), ("name", name)]

theorem Flags.written (flags : Flags) : Json.Written flags.toJson := by
  refine .object fun member within => ?_
  simp only [List.mem_cons, List.not_mem_nil, or_false] at within
  rcases within with rfl | rfl | rfl
  · exact .bool flags.failFast
  · exact flags.rules.written
  · exact .bool flags.resultCache

theorem Registry.written (registry : Registry) : Json.Written registry.toJson := by
  refine .object fun member within => ?_
  obtain ⟨entry, -, rfl⟩ := List.mem_map.mp within
  refine .array fun item listed => ?_
  obtain ⟨checker, -, rfl⟩ := List.mem_map.mp listed
  exact checker.written

namespace CommandLine

/-- What a report is made of. -/
structure Report where
  properties : Properties
  flags : Flags
  /-- The providers by their roles. -/
  providers : List (String × String)
  mappings : List Mapping
  registry : Registry

namespace Report

/-- The report on a factory that is built without components: the standard providers in the order
of their roles' names, no mapping and the built-in constraints. -/
def bare (properties : Properties) (flags : Flags) : Report where
  properties := properties
  flags := flags
  providers := [
    ("clock-provider", "validator_factory::core::providers::SystemClockProvider"),
    ("constraint-validator-factory",
      "validator_factory::core::providers::DefaultConstraintValidatorFactory"),
    ("message-interpolator", "validator_factory::core::providers::DefaultMessageInterpolator"),
    ("parameter-name-provider", "validator_factory::core::providers::DefaultParameterNameProvider"),
    ("script-evaluator-factory",
      "validator_factory::core::providers::DefaultScriptEvaluatorFactory"),
    ("traversable-resolver", "validator_factory::core::providers::DefaultTraversableResolver")]
  mappings := []
  registry := .standard

variable (report : Report)

/-- The lines of a report. -/
def lines : List String :=
  ["Properties:"] ++
  (if report.properties.entries = [] then ["  (none)"]
    else report.properties.entries.map fun entry => "  " ++ entry.1 ++ " = " ++ entry.2) ++
  ["",
    "Effective configuration:",
    "  fail fast: " ++ toString report.flags.failFast,
    "  allow parameter constraint override: " ++ toString report.flags.rules.parameterOverride,
    "  allow multiple cascaded validation on result: " ++
      toString report.flags.rules.multipleCascade,
    "  allow parallel method parameter constraints: " ++
      toString report.flags.rules.parallelParameters,
    "  traversable resolver result cache: " ++ toString report.flags.resultCache,
    "",
    "Providers:"] ++
  report.providers.map (fun entry => "  " ++ entry.1 ++ ": " ++ entry.2) ++
  ["",
    "Constraint mappings (" ++ toString report.mappings.length ++ "):"] ++
  report.mappings.map (fun mapping =>
    "  mapping#" ++ toString mapping.id.toNat ++ " from " ++ mapping.origin.text ++ ": " ++
      toString mapping.definitions.length ++ " definition(s), " ++
      toString mapping.beans.length ++ " bean(s)") ++
  ["",
    "Constraint registry (" ++ toString report.registry.checkers.entries.length ++ " types):"] ++
  report.registry.checkers.entries.flatMap fun entry =>
    ("  " ++ entry.1.name) :: entry.2.map fun checker =>
      "    " ++ (checker.validator ++ " (" ++ checker.validatedType ++ ")")

/-- The same report as a JSON value. -/
def json : Json :=
  .object [
    ("properties",
      .object (report.properties.entries.map fun entry => (entry.1, .string entry.2))),
    ("configuration", .object [
      ("fail_fast", .bool report.flags.failFast),
      ("method_validation", .object [
        ("allow_overriding_method_alter_parameter_constraint",
          .bool report.flags.rules.parameterOverride),
        ("allow_multiple_cascaded_validation_on_return_values",
          .bool report.flags.rules.multipleCascade),
        ("allow_parallel_methods_define_parameter_constraints",
          .bool report.flags.rules.parallelParameters)]),
      ("traversable_resolver_result_cache", .bool report.flags.resultCache)]),
    ("providers", .object (report.providers.map fun entry => (entry.1, .string entry.2))),
    ("mappings", .array (report.mappings.map fun mapping => .object [
      ("id", .integer mapping.id.toNat),
      ("source", mapping.origin.toJson),
      ("constraint_definitions",
        .array (mapping.definitions.map fun definition => .string definition.constraint.name)),
      ("beans", .array (mapping.beans.map fun bean => .string bean.typeName))])),
    ("constraints", .object (report.registry.checkers.entries.map fun entry =>
      (entry.1.name, .array (entry.2.map fun checker => .object [
        ("validator", .string checker.validator),
        ("validated_type", .string checker.validatedType)]))))]

/-- A mapping in short is written. -/
theorem written_mappingJson (mapping : Mapping) :
    Json.Written (Inspection.mappingJson mapping) := by
  refine .object fun member within => ?_
  simp only [List.mem_cons, List.not_mem_nil, or_false] at within
  rcases within with rfl | rfl | rfl | rfl
  · exact .integer mapping.id.toNat
  · exact mapping.origin.written
  · refine .array fun item listed => ?_
    obtain ⟨definition, -, rfl⟩ := List.mem_map.mp listed
    exact definition.constraint.written
  · refine .array fun item listed => ?_
    obtain ⟨name, -, rfl⟩ := List.mem_map.mp listed
    exact .string name

end Report

namespace Inspection

variable (inspection : Inspection)

/-- The report on an inspection. -/
def report : Report where
  properties := inspection.properties
  flags := inspection.factory.settings.flags
  providers := inspection.providers
  mappings := inspection.factory.mappings.mappings
  registry := inspection.factory.registry

theorem propertiesText_eq : inspection.propertiesText = linesOf (["Properties:"] ++
    (if inspection.properties.entries = [] then ["  (none)"]
      else inspection.properties.entries.map fun entry => "  " ++ entry.1 ++ " = " ++ entry.2) ++
    [""]) := by
  unfold propertiesText Table.isEmpty
  cases inspection.properties.entries <;> rfl

theorem mappingLine_eq (mapping : Mapping) : mappingLine mapping =
    "  mapping#" ++ toString mapping.id.toNat ++ " from " ++ mapping.origin.text ++ ": " ++
      toString mapping.definitions.length ++ " definition(s), " ++
      toString mapping.beans.length ++ " bean(s)" := by
  simp only [mappingLine, Mapping.idText, toString, ← String.append_assoc, String.reduceAppend]

/-- The text has the lines of the report. -/
theorem text_eq : inspection.text = linesOf inspection.report.lines := by
  have mappings : inspection.factory.mappings.mappings.map mappingLine = _ :=
    List.map_congr_left fun mapping _ => mappingLine_eq mapping
  rw [text, propertiesText_eq, mappingsText, mappings, Report.lines, flagsText, registryText,
    providersText]
  simp only [← linesOf_append, List.append_assoc, List.cons_append, List.nil_append]
  rfl

example : (Report.bare (.ofList [("acme.size", "2")]) { failFast := true }).lines.take 20 =
    ["Properties:",
      "  acme.size = 2",
      "",
      "Effective configuration:",
      "  fail fast: true",
      "  allow parameter constraint override: false",
      "  allow multiple cascaded validation on result: false",
      "  allow parallel method parameter constraints: false",
      "  traversable resolver result cache: true",
      "",
      "Providers:",
      "  clock-provider: validator_factory::core::providers::SystemClockProvider",
      "  constraint-validator-factory: " ++
        "validator_factory::core::providers::DefaultConstraintValidatorFactory",
      "  message-interpolator: validator_factory::core::providers::DefaultMessageInterpolator",
      "  parameter-name-provider: validator_factory::core::providers::DefaultParameterNameProvider",
      "  script-evaluator-factory: " ++
        "validator_factory::core::providers::DefaultScriptEvaluatorFactory",
      "  traversable-resolver: validator_factory::core::providers::DefaultTraversableResolver",
      "",
      "Constraint mappings (0):",
      ""] := rfl

theorem toJson_eq : inspection.toJson = inspection.report.json := by
  have beans (mapping : Mapping) : Json.strings (mapping.beans.map fun bean => bean.typeName) =
      .array (mapping.beans.map fun bean => .string bean.typeName) := by
    rw [Json.strings, List.map_map]
    rfl
  have mappings : inspection.factory.mappings.mappings.map mappingJson = _ :=
    List.map_congr_left fun mapping _ => by
      rw [mappingJson, beans]
  rw [toJson, mappings]
  rfl

/-- The report as JSON is written. -/
theorem written_toJson : Json.Written inspection.toJson := by
  refine .object fun member within => ?_
  simp only [List.mem_cons, List.not_mem_nil, or_false] at within
  rcases within with rfl | rfl | rfl | rfl | rfl
  · exact .texts inspection.properties.entries
  · exact inspection.factory.settings.flags.written
  · exact .texts inspection.providers
  · refine .array fun item listed => ?_
    obtain ⟨mapping, -, rfl⟩ := List.mem_map.mp listed
    exact Report.written_mappingJson mapping
  · exact inspection.factory.registry.written

end Inspection

end CommandLine

end BeanConstraints
