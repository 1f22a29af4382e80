/-
# Rules for methods

Three rules keep constraints on methods sound in a type hierarchy, and each can be
relaxed on its own. Metadata made under one setting of the rules is not valid
under another.
-/

import BeanConstraints.Json.Basic
import BeanConstraints.Text.Quoted

namespace BeanConstraints

/-- A rule for methods that can be relaxed. -/
inductive MethodRule where
  /-- Overriding methods do not alter parameter constraints. -/
  | parameterOverride
  /-- Return values are marked for cascading only once in a hierarchy. -/
  | multipleCascade
  /-- Parallel methods do not define parameter constraints. -/
  | parallelParameters
  deriving DecidableEq

/-- Which rules for methods are relaxed. -/
structure MethodRules where
  parameterOverride : Bool
  multipleCascade : Bool
  parallelParameters : Bool
  deriving DecidableEq

namespace MethodRules

/-- No rule is relaxed. -/
def strict : MethodRules := ⟨false, false, false⟩

instance : Inhabited MethodRules := ⟨strict⟩

/-- Whether a rule is relaxed. -/
def allows (rules : MethodRules) : MethodRule → Bool
  | .parameterOverride => rules.parameterOverride
  | .multipleCascade => rules.multipleCascade
  | .parallelParameters => rules.parallelParameters

/-- Relax or restore one rule. -/
def set (rules : MethodRules) (rule : MethodRule) (relaxed : Bool) : MethodRules :=
  match rule with
  | .parameterOverride => { rules with parameterOverride := relaxed }
  | .multipleCascade => { rules with multipleCascade := relaxed }
  | .parallelParameters => { rules with parallelParameters := relaxed }

/-- Each rule with a short name. -/
def text (rules : MethodRules) : String :=
  s!"parameter-override={rules.parameterOverride}, " ++
    s!"multiple-cascade-on-return={rules.multipleCascade}, " ++
    s!"parallel-parameter-constraints={rules.parallelParameters}"

/-- The rules with the long names that records give them. -/
def fields (rules : MethodRules) : List (String × Bool) := [
  ("allow_overriding_method_alter_parameter_constraint", rules.parameterOverride),
  ("allow_multiple_cascaded_validation_on_return_values", rules.multipleCascade),
  ("allow_parallel_methods_define_parameter_constraints", rules.parallelParameters)]

/-- How the rules are shown for inspection. -/
def debug (rules : MethodRules) : String :=
  Text.labelled "MethodValidationConfiguration"
    (rules.fields.map fun field => (field.1, toString field.2))

/-- Rules are written as a record of truth values. -/
def toJson (rules : MethodRules) : Json :=
  .object (rules.fields.map fun field => (field.1, .bool field.2))

/-- The rules that a record of truth values denotes. -/
def ofJson? (value : Json) : Option MethodRules := do
  match ← value.record? (strict.fields.map Prod.fst) with
  | [override, cascade, parallel] =>
      return ⟨← override.bool?, ← cascade.bool?, ← parallel.bool?⟩
  | _ => none

/-- Setting a rule is seen at that rule and at no other. -/
theorem allows_set (rules : MethodRules) (rule other : MethodRule) (relaxed : Bool) :
    (rules.set rule relaxed).allows other =
      if other = rule then relaxed else rules.allows other := by
  cases rule <;> cases other <;> rfl

end MethodRules

end BeanConstraints
