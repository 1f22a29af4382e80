/-
# Constraints and checkers

A constraint is a kind of validation rule and is known by its name alone, so two
constraints of one name are the same. A checker is an implementation that can
test a constraint on values of one type.
-/

import BeanConstraints.Json.Basic

namespace BeanConstraints

/-- A kind of validation rule, known by its qualified name. -/
structure Constraint where
  name : String
  deriving DecidableEq, Inhabited, Hashable

namespace Constraint

/-- Constraints are ordered by name, code point by code point. -/
instance : Ord Constraint := ⟨compareOn name⟩

instance : Std.TransOrd Constraint :=
  inferInstanceAs (Std.TransCmp (compareOn name))

instance : Std.LawfulEqOrd Constraint where
  eq_of_compare {first second} h := by
    obtain ⟨name⟩ := first
    obtain ⟨other⟩ := second
    exact congrArg mk (Std.LawfulEqCmp.eq_of_compare (show compare name other = .eq from h))

/-- A character that separates the segments of a qualified name. -/
def isSeparator (c : Char) : Bool :=
  c == '.' || c == ':'

/-- The last segment of the name. -/
def simpleName (constraint : Constraint) : String :=
  String.ofList ((constraint.name.toList.splitOnP isSeparator).getLastD [])

/-- How a constraint is shown for inspection. -/
def debug (constraint : Constraint) : String :=
  "ConstraintType(" ++ constraint.name ++ ")"

/-- A constraint is written as its name. -/
def toJson (constraint : Constraint) : Json :=
  .string constraint.name

/-- Any text names a constraint. -/
def ofJson? (value : Json) : Option Constraint :=
  value.string?.map mk

end Constraint

/-- An implementation able to test a constraint on values of one type. -/
structure Checker where
  validator : String
  validatedType : String
  deriving DecidableEq, Inhabited

namespace Checker

/-- The implementation followed by the type of value it accepts. -/
def text (checker : Checker) : String :=
  checker.validator ++ " (" ++ checker.validatedType ++ ")"

/-- A checker is written as a record of its two names. -/
def toJson (checker : Checker) : Json :=
  .object [("validator", .string checker.validator),
    ("validated_type", .string checker.validatedType)]

/-- The checker that a record of two texts denotes. -/
def ofJson? (value : Json) : Option Checker := do
  match ← value.record? ["validator", "validated_type"] with
  | [validator, validatedType] => return ⟨← validator.string?, ← validatedType.string?⟩
  | _ => none

end Checker

end BeanConstraints
