/-
# The component registry

Named constructors, in two name spaces: contributors and script evaluator
factories. Contributors keep the order of their first registration, in a list of
names beside the table that answers for them. Registering a name again replaces its
constructor and says anew whether it is offered for discovery, but keeps its place.
The list names each contributor of the table once, which the type of registries
demands, so that discovery passes over nobody.
-/

import BeanConstraints.Component.Loader
import BeanConstraints.Table
import BeanConstraints.Text.Quoted

namespace BeanConstraints.Component

/-- A registered contributor. -/
structure Registered where
  constructor : Constructor Contributor
  discoverable : Bool

/-- Named constructors of components. -/
structure Registry where
  name : String
  /-- The contributors under their names. -/
  entries : Table String Registered
  /-- The names of the contributors in the order of their first registration. -/
  order : List String
  scripts : Table String (Constructor ScriptEvaluators)
  unrepeated : order.Nodup
  /-- The order names the contributors of the table and no others. -/
  listed : ∀ name, name ∈ order ↔ entries.contains name = true

namespace Registry

/-- No component, under a name for the log. -/
def named (name : String) : Registry where
  name := name
  entries := .empty
  order := []
  scripts := .empty
  unrepeated := .nil
  listed _ := iff_of_false List.not_mem_nil Bool.false_ne_true

/-- No component, under the usual name. -/
def empty : Registry := named "component registry"

/-- The registry that serves a whole process, before anything is registered. -/
def shared : Registry := named "global component registry"

instance : Inhabited Registry := ⟨empty⟩

/-- The order once a name is registered: a new name comes last. -/
def orderWith (registry : Registry) (name : String) : List String :=
  if registry.entries.contains name then registry.order else registry.order ++ [name]

theorem unrepeated_orderWith (registry : Registry) (name : String) :
    (registry.orderWith name).Nodup := by
  unfold orderWith
  split
  · exact registry.unrepeated
  case _ unknown =>
    have fresh : ∀ known ∈ registry.order, known ≠ name := by
      rintro _ known rfl
      exact unknown ((registry.listed _).mp known)
    simpa [List.nodup_append, registry.unrepeated] using fresh

theorem mem_orderWith (registry : Registry) (name other : String) :
    other ∈ registry.orderWith name ↔ other = name ∨ registry.entries.contains other = true := by
  unfold orderWith
  rw [← registry.listed other]
  split
  case _ known =>
    rw [or_iff_right_of_imp]
    rintro rfl
    exact (registry.listed other).mpr known
  · simp [or_comm]

/-- Register a contributor. -/
def registerContributor (registry : Registry) (name : String)
    (constructor : Constructor Contributor) (discoverable : Bool) : Registry :=
  { registry with
    entries := registry.entries.insert name ⟨constructor, discoverable⟩
    order := registry.orderWith name
    unrepeated := registry.unrepeated_orderWith name
    listed := fun other =>
      (registry.mem_orderWith name other).trans (Table.contains_insert _ _ _ _).symm }

/-- Register script evaluators. -/
def registerScripts (registry : Registry) (name : String)
    (constructor : Constructor ScriptEvaluators) : Registry :=
  { registry with scripts := registry.scripts.insert name constructor }

/-- What is registered as a contributor under a name. -/
def contributor? (registry : Registry) (name : String) : Option Registered :=
  registry.entries.get? name

/-- The contributors in the order of their names. A name that is not registered is passed
over. -/
def contributors (registry : Registry) : List (String × Registered) :=
  registry.order.filterMap fun name => (registry.contributor? name).map (name, ·)

/-- Whether a component of a kind is registered under a name. -/
def contains (registry : Registry) (kind : Kind) (name : String) : Bool :=
  match kind with
  | .mappingContributor => registry.entries.contains name
  | .scriptEvaluators => registry.scripts.contains name

/-- The number of components. -/
def size (registry : Registry) : Nat :=
  registry.entries.size + registry.scripts.size

/-- Whether nothing is registered. -/
def isEmpty (registry : Registry) : Bool :=
  registry.size == 0

/-- Make the contributor registered under a name. -/
def loadContributor (registry : Registry) (name : String) : Reply Contributor :=
  match registry.contributor? name with
  | some entry => entry.constructor.runAs .mappingContributor name
  | none => ⟨[], .error (notRegistered .mappingContributor name)⟩

/-- Make the script evaluators registered under a name. -/
def loadScripts (registry : Registry) (name : String) : Reply ScriptEvaluators :=
  match registry.scripts.get? name with
  | some constructor => constructor.runAs .scriptEvaluators name
  | none => ⟨[], .error (notRegistered .scriptEvaluators name)⟩

/-- Make the discoverable contributors one after the other, up to the first that fails. -/
def discoverFrom : List (String × Registered) → Reply (List (String × Contributor))
  | [] => ⟨[], .ok []⟩
  | (name, entry) :: rest =>
      if entry.discoverable then
        let made := entry.constructor.runAs .mappingContributor name
        match made.result with
        | .error fault => ⟨made.calls, .error fault⟩
        | .ok contributor =>
            let later := discoverFrom rest
            ⟨made.calls ++ later.calls, later.result.map ((name, contributor) :: ·)⟩
      else discoverFrom rest

/-- Make every discoverable contributor. -/
def discover (registry : Registry) : Reply (List (String × Contributor)) :=
  discoverFrom registry.contributors

/-- The loader that answers from the registry as it is now. -/
def loader (registry : Registry) : Loader where
  name := registry.name
  discover := registry.discover
  contributor := registry.loadContributor
  scriptEvaluators := registry.loadScripts

/-- How a registry is shown for inspection: contributors in their order, script evaluators in
the order of their names. -/
def debug (registry : Registry) : String :=
  Text.labelled "ComponentRegistry" [
    ("name", Text.quoted registry.name),
    ("contributors", Text.bracketed (registry.order.map Text.quoted)),
    ("script_factories", Text.bracketed (registry.scripts.keys.map Text.quoted))]

end Registry

end BeanConstraints.Component
