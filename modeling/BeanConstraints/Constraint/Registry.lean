/-
# The registry of checkers

Which checkers are active for which constraint. A registry normally starts with
the built-in constraints; a definition may add checkers behind those that are
there or take their place. An unknown constraint simply has no checker.
-/

import BeanConstraints.Constraint.Basic
import BeanConstraints.Table

namespace BeanConstraints

/-- The active checkers of every known constraint. -/
structure Registry where
  checkers : Table Constraint (List Checker)
  deriving Inhabited

namespace Registry

/-- The built-in constraints with their checkers, in the order in which they are declared. -/
def builtin : List (Constraint × List Checker) := [
  (⟨"constraints.NotNull"⟩, [⟨"NotNullValidator", "Object"⟩]),
  (⟨"constraints.Null"⟩, [⟨"NullValidator", "Object"⟩]),
  (⟨"constraints.NotBlank"⟩, [⟨"NotBlankValidator", "CharSequence"⟩]),
  (⟨"constraints.NotEmpty"⟩,
    [⟨"NotEmptyValidatorForCharSequence", "CharSequence"⟩,
      ⟨"NotEmptyValidatorForCollection", "Collection"⟩,
      ⟨"NotEmptyValidatorForMap", "Map"⟩]),
  (⟨"constraints.Size"⟩,
    [⟨"SizeValidatorForCharSequence", "CharSequence"⟩,
      ⟨"SizeValidatorForCollection", "Collection"⟩,
      ⟨"SizeValidatorForMap", "Map"⟩,
      ⟨"SizeValidatorForArray", "Object[]"⟩]),
  (⟨"constraints.Min"⟩,
    [⟨"MinValidatorForNumber", "Number"⟩, ⟨"MinValidatorForCharSequence", "CharSequence"⟩]),
  (⟨"constraints.Max"⟩,
    [⟨"MaxValidatorForNumber", "Number"⟩, ⟨"MaxValidatorForCharSequence", "CharSequence"⟩]),
  (⟨"constraints.Pattern"⟩, [⟨"PatternValidator", "CharSequence"⟩]),
  (⟨"constraints.Email"⟩, [⟨"EmailValidator", "CharSequence"⟩]),
  (⟨"constraints.Past"⟩, [⟨"PastValidatorForInstant", "Instant"⟩]),
  (⟨"constraints.Future"⟩, [⟨"FutureValidatorForInstant", "Instant"⟩])]

/-- The built-in constraints, in the order in which they are declared. -/
def builtinConstraints : List Constraint :=
  builtin.map Prod.fst

/-- No constraint is known. -/
def empty : Registry := ⟨.empty⟩

/-- Exactly the built-in constraints are known. -/
def standard : Registry := ⟨.ofList builtin⟩

/-- The active checkers of a constraint, none if it is unknown. -/
def checkersOf (registry : Registry) (constraint : Constraint) : List Checker :=
  (registry.checkers.get? constraint).getD []

/-- Take a constraint out of the registry, and its checkers with it. -/
def take (registry : Registry) (constraint : Constraint) : List Checker × Registry :=
  (registry.checkersOf constraint, ⟨registry.checkers.erase constraint⟩)

/-- Set the checkers of a constraint. If those that are there are to stay, they are taken out and
put back in front of the new ones. -/
def put (registry : Registry) (constraint : Constraint) (added : List Checker)
    (keepExisting : Bool) : Registry :=
  let (kept, others) := if keepExisting then registry.take constraint else ([], registry)
  ⟨others.checkers.insert constraint (kept ++ added)⟩

/-- Whether a constraint is known, be it without checkers. -/
def contains (registry : Registry) (constraint : Constraint) : Bool :=
  registry.checkers.contains constraint

/-- The known constraints in the order of their names. -/
def constraints (registry : Registry) : List Constraint :=
  registry.checkers.keys

/-- The number of known constraints. -/
def size (registry : Registry) : Nat :=
  registry.checkers.size

/-- Whether no constraint is known. -/
def isEmpty (registry : Registry) : Bool :=
  registry.checkers.isEmpty

/-- A registry is written as the checkers of every known constraint, by name. -/
def toJson (registry : Registry) : Json :=
  .object (registry.checkers.entries.map fun entry =>
    (entry.1.name, .array (entry.2.map Checker.toJson)))

/-- Forget every constraint. -/
def clear (_ : Registry) : Registry := empty

/-- Putting checkers of one constraint sets its own checkers, behind what was to stay, and leaves
the other constraints alone. -/
theorem get?_put (registry : Registry) (constraint other : Constraint) (added : List Checker)
    (keepExisting : Bool) :
    (registry.put constraint added keepExisting).checkers.get? other =
      if other = constraint then
        some ((if keepExisting then registry.checkersOf constraint else []) ++ added)
      else registry.checkers.get? other := by
  by_cases same : other = constraint
  · subst same
    cases keepExisting <;> simp [put, take]
  · rw [if_neg same]
    cases keepExisting
    · exact Table.get?_insert_of_ne _ _ same
    · exact (Table.get?_insert_of_ne _ _ same).trans (Table.get?_erase_of_ne _ same)

/-- What was put is there, behind what was to stay. -/
theorem checkersOf_put_self (registry : Registry) (constraint : Constraint)
    (added : List Checker) (keepExisting : Bool) :
    (registry.put constraint added keepExisting).checkersOf constraint =
      (if keepExisting then registry.checkersOf constraint else []) ++ added := by
  rw [checkersOf, get?_put, if_pos rfl, Option.getD_some]

/-- Putting checkers of one constraint leaves the others alone. -/
theorem checkersOf_put_of_ne (registry : Registry) {constraint other : Constraint}
    (added : List Checker) (keepExisting : Bool) (h : other ≠ constraint) :
    (registry.put constraint added keepExisting).checkersOf other =
      registry.checkersOf other := by
  rw [checkersOf, get?_put, if_neg h, checkersOf]

end Registry

end BeanConstraints
