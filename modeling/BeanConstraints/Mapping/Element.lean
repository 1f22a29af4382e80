/-
# Constrained elements

The elements of a bean on which a constraint can be placed, and the placements
gathered for one bean type.
-/

import BeanConstraints.Constraint.Basic

namespace BeanConstraints

/-- An element of a bean on which a constraint can be placed. -/
inductive Element where
  /-- The bean type itself. -/
  | type
  | field (name : String)
  /-- A getter, by the property that it reads. -/
  | getter (property : String)
  /-- A parameter of a method or constructor with so many parameters. -/
  | parameter (method : String) (index arity : Nat)
  | returnValue (method : String)
  deriving DecidableEq, Inhabited

namespace Element

/-- The element as notes and reports name it. -/
def text : Element → String
  | type => "<type>"
  | field name => name
  | getter property => property ++ "()"
  | parameter method index _ => s!"{method}[{index}]"
  | returnValue method => method ++ ".<return value>"

/-- An element is written as a record that starts with its kind. -/
def toJson : Element → Json
  | type => .object [("kind", .string "type")]
  | field name => .object [("kind", .string "field"), ("name", .string name)]
  | getter property => .object [("kind", .string "getter"), ("property", .string property)]
  | parameter method index arity =>
      .object [("kind", .string "parameter"), ("method", .string method),
        ("index", .nat index), ("arity", .nat arity)]
  | returnValue method => .object [("kind", .string "return-value"), ("method", .string method)]

/-- The element that a record denotes. -/
def ofJson? (value : Json) : Option Element := do
  let members ← value.object?
  let text (name : String) : Option String := do (← Json.field? members name).string?
  let count (name : String) : Option Nat := do (← Json.field? members name).nat?
  match ← text "kind" with
  | "type" => return type
  | "field" => return field (← text "name")
  | "getter" => return getter (← text "property")
  | "parameter" => return parameter (← text "method") (← count "index") (← count "arity")
  | "return-value" => return returnValue (← text "method")
  | _ => none

end Element

/-- A constraint placed on an element. -/
structure Placement where
  element : Element
  constraint : Constraint
  deriving DecidableEq, Inhabited

/-- A placement is written with the text of its element. -/
def Placement.toJson (placement : Placement) : Json :=
  .object [("element", placement.element.toJson), ("text", .string placement.element.text),
    ("constraint", placement.constraint.toJson)]

/-- The placements for one bean type, in the order in which they were made. -/
structure BeanPlacements where
  typeName : String
  placements : List Placement
  deriving DecidableEq, Inhabited

/-- Placements are written under their bean type. -/
def BeanPlacements.toJson (bean : BeanPlacements) : Json :=
  .object [("type", .string bean.typeName),
    ("constraints", .array (bean.placements.map Placement.toJson))]

end BeanConstraints
