/-
# Property keys

The keys that the factory understands. A table of properties may hold others;
they are carried along and mean nothing.
-/

import BeanConstraints.Json.Basic
import BeanConstraints.Table

namespace BeanConstraints

/-- The properties that a factory sees. -/
abbrev Properties := Table String String

/-- Properties are written as an object of texts. -/
def Properties.toJson (properties : Properties) : Json :=
  .object (properties.entries.map fun entry => (entry.1, .string entry.2))

/-- A key that the factory understands. -/
inductive PropertyKey where
  /-- Stop validating at the first violation. -/
  | failFast
  /-- Relax the rule on overriding methods. -/
  | parameterOverride
  /-- Relax the rule on cascading return values. -/
  | multipleCascade
  /-- Relax the rule on parallel methods. -/
  | parallelParameters
  /-- Remember what the traversable resolver answers. -/
  | resultCache
  /-- The mapping contributors to load, separated by commas. -/
  | contributors
  /-- The script evaluator factory to load. -/
  | scriptEvaluators
  deriving DecidableEq

namespace PropertyKey

/-- The key as tables of properties hold it. -/
def name : PropertyKey → String
  | failFast => "validator.fail_fast"
  | parameterOverride => "validator.allow_parameter_constraint_override"
  | multipleCascade => "validator.allow_multiple_cascaded_validation_on_result"
  | parallelParameters => "validator.allow_parallel_method_parameter_constraint"
  | resultCache => "validator.enable_traversable_resolver_result_cache"
  | contributors => "validator.constraint_mapping_contributors"
  | scriptEvaluators => "validator.script_evaluator_factory_classname"

/-- Every key. -/
def all : List PropertyKey :=
  [failFast, parameterOverride, multipleCascade, parallelParameters, resultCache, contributors,
    scriptEvaluators]

/-- Whether a name is one of the keys. -/
def isKnown (key : String) : Bool :=
  all.any fun known => known.name == key

end PropertyKey

end BeanConstraints
