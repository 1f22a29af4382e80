/-
# Steps of construction

A step of building a factory draws identities, writes to the journal and ends
with a value or a fault. Steps follow one another until the first fault; the
journal and the counters keep what happened up to it.
-/

import BeanConstraints.Component.Loader

namespace BeanConstraints

/-- The next identities to give out. -/
structure Counters where
  mapping : MappingId := 1
  provider : Nat := 0
  deriving DecidableEq, Inhabited

/-- Give out the next identity for a mapping. After the last one the counter starts anew. -/
def Counters.drawMapping (counters : Counters) : MappingId × Counters :=
  (counters.mapping, { counters with mapping := counters.mapping + 1 })

/-- How a step of construction ends. -/
structure Outcome (α : Type) where
  journal : Journal
  counters : Counters
  result : Except Fault α

/-- A step of construction. -/
def Bootstrap (α : Type) := Counters → Outcome α

namespace Bootstrap

/-- Run a step from given counters. -/
def run {α : Type} (step : Bootstrap α) (counters : Counters) : Outcome α :=
  step counters

/-- Do nothing and have a value. -/
def done {α : Type} (value : α) : Bootstrap α := fun counters =>
  ⟨[], counters, .ok value⟩

/-- Go on with what a step yields, unless it failed. -/
def andThen {α β : Type} (step : Bootstrap α) (next : α → Bootstrap β) : Bootstrap β :=
  fun counters =>
    let first := step counters
    match first.result with
    | .error fault => ⟨first.journal, first.counters, .error fault⟩
    | .ok value =>
        let second := next value first.counters
        ⟨first.journal ++ second.journal, second.counters, second.result⟩

instance : Monad Bootstrap where
  pure := done
  bind := andThen

/-- A step that fails ends what it is part of. -/
theorem run_bind_error {α β : Type} {step : Bootstrap α} {counters : Counters} {fault : Fault}
    (next : α → Bootstrap β) (failed : (step.run counters).result = .error fault) :
    (step >>= next).run counters =
      ⟨(step.run counters).journal, (step.run counters).counters, .error fault⟩ := by
  change andThen step next counters = _
  unfold run at failed ⊢
  simp [andThen, failed]

/-- After a step that succeeds, the next one goes on with its journal and its counters. -/
theorem run_bind_ok {α β : Type} {step : Bootstrap α} {counters : Counters} {value : α}
    (next : α → Bootstrap β) (succeeded : (step.run counters).result = .ok value) :
    (step >>= next).run counters =
      ⟨(step.run counters).journal ++ ((next value).run (step.run counters).counters).journal,
        ((next value).run (step.run counters).counters).counters,
        ((next value).run (step.run counters).counters).result⟩ := by
  change andThen step next counters = _
  unfold run at succeeded ⊢
  simp [andThen, succeeded]

/-- Fail. -/
def fail {α : Type} (fault : Fault) : Bootstrap α := fun counters =>
  ⟨[], counters, .error fault⟩

/-- Write to the journal. -/
def log (journal : Journal) : Bootstrap Unit := fun counters =>
  ⟨journal, counters, .ok ()⟩

/-- Go on with a value or fail. -/
def ofExcept {α : Type} (result : Except Fault α) : Bootstrap α := fun counters =>
  ⟨[], counters, result⟩

/-- Draw the identity of a new mapping. -/
def freshMapping : Bootstrap MappingId := fun counters =>
  let (id, counters) := counters.drawMapping
  ⟨[], counters, .ok id⟩

/-- Give a provider its identity. -/
def instantiate {ρ : Type} (role : ρ) : Bootstrap (Instance ρ) := fun counters =>
  ⟨[], { counters with provider := counters.provider + 1 }, .ok ⟨counters.provider, role⟩⟩

/-- The provider that is configured, or else a new standard one. -/
def configuredOr {ρ : Type} (configured : Option (Instance ρ)) (standard : ρ) :
    Bootstrap (Instance ρ) :=
  match configured with
  | some provider => done provider
  | none => instantiate standard

/-- Load a component under watch: the journal shows that loading begins, what was called, and
whether it went well. Everything that a loader is asked goes through here. -/
def watched {α : Type} (kind : Component.Kind) (name : String) (reply : Component.Reply α) :
    Bootstrap α := fun counters =>
  let last := match reply.result with
    | .ok _ => s!"Loaded {kind.text} {Fault.ticked name}"
    | .error fault => s!"Failed to load {kind.text} {Fault.ticked name}: {fault.message}"
  ⟨.load kind name :: reply.calls.map .call ++ Journal.debug last, counters, reply.result⟩

/-- Turn a fault of a step into another. -/
def mapFault {α : Type} (step : Bootstrap α) (change : Fault → Fault) : Bootstrap α :=
  fun counters =>
    let outcome := step counters
    ⟨outcome.journal, outcome.counters, outcome.result.mapError change⟩

end Bootstrap

end BeanConstraints
