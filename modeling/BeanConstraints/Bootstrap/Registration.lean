/-
# Registering definitions

The definitions of all mappings are put into the registry of checkers, in mapping
order, then in the order within the mapping. A constraint may have one definition
only. A second one ends registration; what came before it stays registered.
-/

import BeanConstraints.Constraint.Registry
import BeanConstraints.Fault
import BeanConstraints.Journal

namespace BeanConstraints

/-- How registration ends: the registry as it is then, the journal, and the fault if there was
one. -/
structure Registration where
  registry : Registry
  journal : Journal
  fault : Option Fault

namespace Registration

/-- The note on a definition that was registered. -/
def note (origin : Origin) (definition : Definition) : Journal :=
  Journal.debug
    (s!"Registered {definition.checkers.length} validator(s) for " ++
      s!"{Fault.ticked definition.constraint.name} from {origin.text} " ++
      s!"(include existing: {definition.keepExisting})")

/-- Register definitions of constraints that are not among those seen. -/
def fold (seen : List Constraint) (registry : Registry) :
    List (Origin × Definition) → Registration
  | [] => ⟨registry, [], none⟩
  | (origin, definition) :: rest =>
      if seen.contains definition.constraint then
        ⟨registry, [], some (.duplicateDefinition definition.constraint origin)⟩
      else
        let later := fold (definition.constraint :: seen)
          (registry.put definition.constraint definition.checkers definition.keepExisting) rest
        ⟨later.registry, note origin definition ++ later.journal, later.fault⟩

end Registration

/-- Register every definition of sealed mappings. -/
def Registry.register (registry : Registry) (sealed : SealedMappings) : Registration :=
  Registration.fold [] registry sealed.definitions

end BeanConstraints
