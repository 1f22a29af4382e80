/-
# Flags

The flags under which a factory works, as they are set in code and as properties
change them. A property wins over code, flag by flag. Only fail-fast is special:
a property cannot switch off what code switched on, and that contradiction is a
fault.
-/

import BeanConstraints.Fault
import BeanConstraints.MethodRules
import BeanConstraints.Property.Names

namespace BeanConstraints

/-- The flags under which a factory works. -/
structure Flags where
  /-- Stop validating at the first violation. -/
  failFast : Bool := false
  /-- Which rules for methods are relaxed. -/
  rules : MethodRules := .strict
  /-- Remember what the traversable resolver answers. -/
  resultCache : Bool := true
  deriving DecidableEq, Inhabited

/-- What a property says about a flag, if it is there. -/
def Properties.flag? (properties : Properties) (key : PropertyKey) : Option Bool :=
  (properties.get? key.name).map Property.isTrue

namespace Flags

/-- The flag that a property sets, or else its value in code. -/
def override (properties : Properties) (key : PropertyKey) (inCode : Bool) : Bool :=
  (properties.flag? key).getD inCode

/-- The rules for methods, each with its own property over its value in code. They are set one after
the other, starting from the strict rules. -/
def overrideRules (properties : Properties) (inCode : MethodRules) : MethodRules :=
  MethodRules.strict
    |>.set .parameterOverride (override properties .parameterOverride inCode.parameterOverride)
    |>.set .multipleCascade (override properties .multipleCascade inCode.multipleCascade)
    |>.set .parallelParameters (override properties .parallelParameters inCode.parallelParameters)

/-- The flags in effect when properties are laid over the flags in code. -/
def resolve (properties : Properties) (inCode : Flags) : Except Fault Flags :=
  if inCode.failFast && properties.flag? .failFast == some false then
    .error .inconsistentFailFast
  else .ok {
    failFast := override properties .failFast inCode.failFast
    rules := overrideRules properties inCode.rules
    resultCache := override properties .resultCache inCode.resultCache }

/-- Flags are written as a record. -/
def toJson (flags : Flags) : Json :=
  .object [("fail_fast", .bool flags.failFast), ("method_validation", flags.rules.toJson),
    ("traversable_resolver_result_cache", .bool flags.resultCache)]

/-- How flags are shown for inspection. -/
def debug (flags : Flags) : String :=
  Text.labelled "EffectiveConfiguration" [
    ("fail_fast", toString flags.failFast),
    ("method_validation", flags.rules.debug),
    ("traversable_resolver_result_cache", toString flags.resultCache)]

end Flags

end BeanConstraints
