/-
# Metadata of beans

What holds on a bean type: every placement of every source, in the order of the
sources, each with the checkers that are active for its constraint. Elements are
named as violations report them. Parameters get their names from a provider,
which may crash; a crash leaves no metadata.
-/

import BeanConstraints.Constraint.Registry
import BeanConstraints.Metadata.Source

namespace BeanConstraints.Metadata

/-- A constraint on an element of a bean, with its active checkers. -/
structure MetaConstraint where
  element : Element
  /-- The element as violations name it. -/
  elementName : String
  constraint : Constraint
  checkers : List Checker
  /-- The kind of the source that placed the constraint. -/
  origin : String
  deriving DecidableEq, Inhabited

/-- A constraint on an element is written as a record of its five parts. -/
def MetaConstraint.toJson (held : MetaConstraint) : Json :=
  .object [("element", held.element.toJson), ("element_name", .string held.elementName),
    ("constraint_type", held.constraint.toJson),
    ("validators", .array (held.checkers.map Checker.toJson)),
    ("origin", .string held.origin)]

/-- What holds on a bean type. -/
structure Bean where
  typeName : String
  constraints : List MetaConstraint
  deriving DecidableEq, Inhabited

namespace Bean

/-- Whether anything holds. -/
def hasConstraints (bean : Bean) : Bool :=
  !bean.constraints.isEmpty

/-- The constraints on the elements of one name. -/
def constraintsFor (bean : Bean) (elementName : String) : List MetaConstraint :=
  bean.constraints.filter fun held => held.elementName == elementName

/-- Metadata is written as a record of the type and its constraints. -/
def toJson (bean : Bean) : Json :=
  .object [("type_name", .string bean.typeName),
    ("constraints", .array (bean.constraints.map MetaConstraint.toJson))]

end Bean

/-- The name of a parameter: the one that the provider gives, or its position where the provider
gives too few. -/
def parameterName (method : String) (index : Nat) (names : List String) : String :=
  method ++ "." ++ names[index]?.getD (ParameterNaming.positional index)

/-- The name of an element in violations. Only parameters need the provider. -/
def elementName (naming : ParameterNaming) : Element → Journal × Option String
  | .type => ([], some "")
  | .field name => ([], some name)
  | .getter property => ([], some property)
  | .parameter method index arity =>
      let (journal, names) := naming.ask method arity
      (journal, names.map (parameterName method index))
  | .returnValue method => ([], some (method ++ ".<return value>"))

/-- Every placement on a bean type with the kind of its source: source by source, bean by bean,
and in the order of placing. -/
def placementsOn (sources : List Source) (typeName : String) : List (String × Placement) :=
  sources.flatMap fun source =>
    (source.beansOf typeName).flatMap fun bean =>
      bean.placements.map fun placement => (source.kind, placement)

/-- The note on a constraint without checkers. -/
def unchecked (typeName : String) (placement : Placement) : Journal :=
  Journal.trace (s!"No validator registered for {Fault.ticked placement.constraint.name} on " ++
    s!"{typeName}.{placement.element.text}")

/-- One placement with its checkers and its name. -/
def resolve (naming : ParameterNaming) (registry : Registry) (typeName origin : String)
    (placement : Placement) : Journal × Option MetaConstraint :=
  let checkers := registry.checkersOf placement.constraint
  let note := if checkers.isEmpty then unchecked typeName placement else []
  let (asked, name) := elementName naming placement.element
  (note ++ asked,
    name.map fun name => ⟨placement.element, name, placement.constraint, checkers, origin⟩)

/-- All placements with their checkers and names, up to a crash. -/
def resolveAll (naming : ParameterNaming) (registry : Registry) (typeName : String) :
    List (String × Placement) → Journal × Option (List MetaConstraint)
  | [] => ([], some [])
  | (origin, placement) :: rest =>
      match resolve naming registry typeName origin placement with
      | (journal, none) => (journal, none)
      | (journal, some first) =>
          let (later, others) := resolveAll naming registry typeName rest
          (journal ++ later, others.map (first :: ·))

/-- Build the metadata of a bean type. -/
def Bean.build (naming : ParameterNaming) (registry : Registry) (sources : List Source)
    (typeName : String) : Journal × Option Bean :=
  match resolveAll naming registry typeName (placementsOn sources typeName) with
  | (journal, none) => (journal, none)
  | (journal, some constraints) =>
      (journal ++ Journal.trace
          (s!"Built metadata for {Fault.ticked typeName} with {constraints.length} " ++
            "constraint(s)"),
        some ⟨typeName, constraints⟩)

end BeanConstraints.Metadata
