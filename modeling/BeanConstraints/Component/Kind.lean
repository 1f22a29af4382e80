/-
# Kinds of components

A component is loaded under a name and is used as one of two things.
-/

import BeanConstraints.Json.Basic

namespace BeanConstraints.Component

/-- What a component is used as. -/
inductive Kind where
  | mappingContributor
  | scriptEvaluators
  deriving DecidableEq, Inhabited

namespace Kind

/-- The kind as notes and errors name it. -/
def text : Kind → String
  | mappingContributor => "constraint mapping contributor"
  | scriptEvaluators => "script evaluator factory"

/-- The short name of the kind. -/
def label : Kind → String
  | mappingContributor => "mapping-contributor"
  | scriptEvaluators => "script-evaluator-factory"

/-- A kind is written as its short name. -/
def toJson (kind : Kind) : Json :=
  .string kind.label

end Kind

end BeanConstraints.Component
