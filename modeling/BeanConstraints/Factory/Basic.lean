/-
# Factories and validators

A factory hands out validators that share one set of definitions. Validators whose
settings have the same metadata key share a metadata manager as well. Closing
releases what the factory and its parts keep; it can be done at any time, and
validators that exist go on working.
-/

import BeanConstraints.Factory.Settings
import BeanConstraints.Metadata.Store

namespace BeanConstraints

/-- A factory in use. -/
structure Factory where
  /-- What a validator works with unless it is told otherwise. -/
  settings : Settings
  /-- The documents, if there were any, then the mappings, if there are any. -/
  sources : List Metadata.Source
  mappings : SealedMappings
  registry : Registry
  store : Metadata.Store := .empty
  /-- What the standard supplies remember. -/
  ledger : Ledger := {}

/-- A validator: its settings and its metadata manager. -/
structure Validator where
  settings : Settings
  manager : Metadata.ManagerId

namespace Factory

/-- Hand out a validator with the given settings. -/
def validatorFrom (factory : Factory) (settings : Settings) : Journal × Factory × Validator :=
  let (journal, store, manager) := factory.store.get settings.key factory.sources
  (journal, { factory with store }, ⟨settings, manager⟩)

/-- Hand out a validator with the settings of the factory. -/
def validator (factory : Factory) : Journal × Factory × Validator :=
  factory.validatorFrom factory.settings

/-- Hand out a validator with changed settings. -/
def validatorWith (factory : Factory) (overrides : List Override) :
    Journal × Factory × Validator :=
  factory.validatorFrom (factory.settings.overridden overrides)

/-- The metadata of a bean type for a validator. There is no answer if the provider of parameter
names crashes. -/
def bean (factory : Factory) (validator : Validator) (typeName : String) :
    Journal × Factory × Option Metadata.Built :=
  let (journal, store, built) := factory.store.bean factory.registry validator.manager typeName
  (journal, { factory with store }, built)

/-- Make the metadata manager of a validator forget what it has built. -/
def clearMetadata (factory : Factory) (validator : Validator) : Factory :=
  { factory with store := factory.store.clearManager validator.manager }

/-- Take a validator instance from the supply of some settings. -/
def acquire (factory : Factory) (settings : Settings) (name : String) : Journal × Factory :=
  let (ledger, journal) := factory.ledger.acquire settings.validators name
  (journal, { factory with ledger })

/-- Have an evaluator prepared by the script evaluators of some settings. -/
def prepare (factory : Factory) (settings : Settings) (language : String) : Journal × Factory :=
  let (ledger, journal) := factory.ledger.prepare settings.scripts language
  (journal, { factory with ledger })

/-- Release what is kept: validator instances, definitions, metadata, evaluators. -/
def close (factory : Factory) : Journal × Factory :=
  let (ledger, released) := factory.ledger.clearValidators factory.settings.validators
  let (cleared, store) := factory.store.clear
  let (ledger, scripts) := ledger.clearScripts factory.settings.scripts
  (released ++ cleared ++ scripts ++ Journal.debug "Validator factory closed",
    { factory with registry := factory.registry.clear, store, ledger })

/-- The name of the only type as which a factory can be had. -/
def typeName : String := "validator_factory::factory::validator_factory::ValidatorFactory"

/-- Have the factory as a type of the given name. -/
def unwrap (factory : Factory) (name : String) : Except Fault Factory :=
  if name = typeName then .ok factory else .error (.unsupportedUnwrap name)

/-- How a factory is shown for inspection. -/
def debug (factory : Factory) : String :=
  let settings := factory.settings
  Text.labelled "ValidatorFactory" [
    ("message_interpolator", Text.quoted settings.interpolator.role.label),
    ("traversable_resolver", Text.quoted settings.traversal.role.label),
    ("parameter_name_provider", Text.quoted settings.naming.role.label),
    ("clock_provider", Text.quoted settings.clock.role.label),
    ("script_evaluator_factory", Text.quoted settings.scripts.role.label),
    ("configuration", settings.flags.debug),
    ("mappings", toString factory.mappings.size),
    ("constraint_types", toString factory.registry.size),
    ("cached_managers", toString factory.store.size)]

/-- How a validator of the factory is shown for inspection. -/
def debugValidator (factory : Factory) (validator : Validator) : String :=
  let settings := validator.settings
  Text.labelled "Validator" [
    ("message_interpolator", Text.quoted settings.interpolator.role.label),
    ("parameter_name_provider", Text.quoted settings.naming.role.label),
    ("fail_fast", toString settings.flags.failFast),
    ("method_validation", settings.flags.rules.debug),
    ("traversable_resolver_result_cache", toString settings.flags.resultCache),
    ("metadata",
      ((factory.store.manager? validator.manager).map Metadata.Manager.debug).getD "")]

end Factory

end BeanConstraints
