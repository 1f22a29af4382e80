/-
# Providers

The six roles that an engine fills from outside, each with the standard provider
that fills it when nothing else is configured. Providers have identities: two
providers of equal content are still two, and metadata made for one provider of
parameter names is never used for another.
-/

import BeanConstraints.Constraint.Basic
import BeanConstraints.Journal

namespace BeanConstraints

/-- A provider with its identity. -/
structure Instance (ρ : Type) where
  id : Nat
  role : ρ

namespace Instance

/-- Whether two instances are one and the same. -/
def same {ρ : Type} (first second : Instance ρ) : Bool :=
  first.id == second.id

end Instance

/-- Turns message templates into messages. -/
structure Interpolator where
  label : String
  interpolate : String → Constraint → String

namespace Interpolator

/-- Replace a placeholder by a text wherever it stands, from left to right. -/
def fill (placeholder filling : List Char) : List Char → List Char
  | [] => []
  | c :: rest =>
      if placeholder.isPrefixOf (c :: rest) && !placeholder.isEmpty then
        filling ++ fill placeholder filling (rest.drop (placeholder.length - 1))
      else c :: fill placeholder filling rest
  termination_by cs => cs.length
  decreasing_by
    · simp only [List.length_drop, List.length_cons]; omega
    · simp

/-- The place in a template where the simple name of the constraint goes. -/
def placeholder : List Char := "\x7bconstraint\x7d".toList

/-- Fills in the simple name of the constraint and leaves the rest of the template alone. -/
def standard : Interpolator where
  label := "validator_factory::core::providers::DefaultMessageInterpolator"
  interpolate template constraint :=
    String.ofList (fill placeholder constraint.simpleName.toList template.toList)

end Interpolator

/-- Decides which properties a walk through an object graph may reach and cascade into. -/
structure Traversal where
  label : String
  /-- It lives outside this library. -/
  external : Bool := true
  isReachable : String → String → Bool
  isCascadable : String → String → Bool

namespace Traversal

/-- Everything is reachable and cascades. -/
def standard : Traversal where
  label := "validator_factory::core::providers::DefaultTraversableResolver"
  external := false
  isReachable _ _ := true
  isCascadable _ _ := true

/-- Ask whether a property is reachable. -/
def reachable (traversal : Traversal) (bean property : String) : Journal × Bool :=
  (if traversal.external then [.call (.reachable traversal.label bean property)] else [],
    traversal.isReachable bean property)

/-- Ask whether validation cascades into a property. -/
def cascadable (traversal : Traversal) (bean property : String) : Journal × Bool :=
  (if traversal.external then [.call (.cascadable traversal.label bean property)] else [],
    traversal.isCascadable bean property)

end Traversal

/-- Names the parameters of methods and constructors. -/
structure ParameterNaming where
  label : String
  /-- It lives outside this library. -/
  external : Bool := true
  /-- The names for a method with so many parameters. Without an answer the provider has
  crashed. -/
  names : String → Nat → Option (List String)

namespace ParameterNaming

/-- The positional name of a parameter. -/
def positional (index : Nat) : String :=
  s!"arg{index}"

/-- How many names a list of names can hold: a name takes three machine words, and a block of
memory is shorter than half of the address space. -/
def mostNames : Nat := (Nat.pow 2 63 - 1) / 24

/-- Names parameters by position. A method with more parameters than a list can name makes the
provider crash, before it names any of them. -/
def standard : ParameterNaming where
  label := "validator_factory::core::providers::DefaultParameterNameProvider"
  external := false
  names _ arity := if arity ≤ mostNames then some ((List.range arity).map positional) else none

/-- Ask for the names of the parameters of a method. -/
def ask (naming : ParameterNaming) (method : String) (arity : Nat) :
    Journal × Option (List String) :=
  (if naming.external then [.call (.parameterNames method arity)] else [],
    naming.names method arity)

end ParameterNaming

/-- Tells the time. Nothing here depends on what it tells. -/
structure Clock where
  label : String

/-- The clock of the system. -/
def Clock.standard : Clock where
  label := "validator_factory::core::providers::SystemClockProvider"

/-- Makes validator instances. The standard one remembers which it has handed out. -/
structure ValidatorSupply where
  label : String
  /-- It lives outside this library. -/
  external : Bool := true

/-- Remembers the names of the validators handed out. -/
def ValidatorSupply.standard : ValidatorSupply where
  label := "validator_factory::core::providers::DefaultConstraintValidatorFactory"
  external := false

/-- Prepares evaluators of script languages. The standard one remembers which it has prepared. -/
structure ScriptEvaluators where
  label : String
  /-- It lives outside this library. -/
  external : Bool := true

/-- Remembers the languages prepared for. -/
def ScriptEvaluators.standard : ScriptEvaluators where
  label := "validator_factory::core::providers::DefaultScriptEvaluatorFactory"
  external := false

/-- What the standard supplies of validators and evaluators remember, by the identity of the
supply. Each name is kept once. -/
structure Ledger where
  names : List (Nat × List String) := []
  deriving Inhabited

namespace Ledger

/-- The names that a supply remembers, in the order in which it met them. -/
def read (ledger : Ledger) (id : Nat) : List String :=
  ((ledger.names.find? fun entry => entry.1 == id).map Prod.snd).getD []

/-- Make a supply forget all names. -/
def clear (ledger : Ledger) (id : Nat) : Ledger :=
  ⟨ledger.names.filter fun entry => entry.1 != id⟩

/-- Make a supply remember a name. -/
def remember (ledger : Ledger) (id : Nat) (name : String) : Ledger :=
  let known := ledger.read id
  if known.contains name then ledger
  else ⟨(id, known ++ [name]) :: (ledger.clear id).names⟩

/-- The names that a supply remembers, in rising order. -/
def sorted (ledger : Ledger) (id : Nat) : List String :=
  (ledger.read id).mergeSort fun first second => (compare first second).isLE

@[simp]
theorem read_clear_self (ledger : Ledger) (id : Nat) : (ledger.clear id).read id = [] := by
  have gone : (ledger.clear id).names.find? (fun entry => entry.1 == id) = none := by
    rw [List.find?_eq_none]
    intro entry h
    simpa using (List.mem_filter.mp h).2
  simp [read, gone]

/-- Take a validator instance from a supply. -/
def acquire (ledger : Ledger) (supply : Instance ValidatorSupply) (validator : String) :
    Ledger × Journal :=
  if supply.role.external then (ledger, [.call (.acquire supply.role.label validator)])
  else (ledger.remember supply.id validator, [])

/-- Release the instances of a supply. -/
def clearValidators (ledger : Ledger) (supply : Instance ValidatorSupply) : Ledger × Journal :=
  if supply.role.external then (ledger, [.call (.clearValidators supply.role.label)])
  else (ledger.clear supply.id, [])

/-- Have an evaluator prepared for a language, whose name the standard evaluators take without
regard to ASCII case. -/
def prepare (ledger : Ledger) (scripts : Instance ScriptEvaluators) (language : String) :
    Ledger × Journal :=
  if scripts.role.external then (ledger, [.call (.prepare scripts.role.label language)])
  else (ledger.remember scripts.id (String.ofList (language.toList.map Char.toLower)), [])

/-- Release the evaluators that were prepared. -/
def clearScripts (ledger : Ledger) (scripts : Instance ScriptEvaluators) : Ledger × Journal :=
  if scripts.role.external then (ledger, [.call (.clearScripts scripts.role.label)])
  else (ledger.clear scripts.id, [])

end Ledger

end BeanConstraints
