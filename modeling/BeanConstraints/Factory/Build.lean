/-
# Building a factory

Everything that happens once happens here, in a fixed order: the mapping documents
are read, the mappings collected, their definitions registered, the flags resolved
and the script evaluators chosen. The first fault ends the building.
-/

import BeanConstraints.Bootstrap.Registration
import BeanConstraints.Factory.Basic
import BeanConstraints.Factory.Configuration

namespace BeanConstraints.Factory

/-- Read the mapping documents. A parser is needed only if there are any. -/
def readDocuments (configuration : Configuration) : Bootstrap (Option Metadata.Documents) :=
  match configuration.streams, configuration.parser with
  | [], _ => pure none
  | stream :: rest, none => Bootstrap.fail (.missingParser (stream :: rest).length)
  | stream :: rest, some parser => do
      let documents ← Metadata.Documents.read parser (stream :: rest)
      return some documents

/-- Register the definitions of all mappings on top of the built-in ones. -/
def register (mappings : SealedMappings) : Bootstrap Registry := do
  let registration := Registry.standard.register mappings
  Bootstrap.log registration.journal
  match registration.fault with
  | some fault => Bootstrap.fail fault
  | none => return registration.registry

/-- Load the script evaluators that a property names. -/
def loadScripts (loader : Component.Loader) (name : String) :
    Bootstrap (Instance ScriptEvaluators) := do
  let loaded := Bootstrap.watched .scriptEvaluators name (loader.scriptEvaluators name)
  let scripts ← loaded.mapFault (Fault.scriptEvaluators name)
  Bootstrap.log (Journal.debug s!"Using script evaluator factory {Fault.ticked name}")
  Bootstrap.instantiate scripts

/-- Choose the script evaluators: those of the configuration, else those that a property names,
else the standard ones. -/
def chooseScripts (loader : Component.Loader) (configuration : Configuration) :
    Bootstrap (Instance ScriptEvaluators) :=
  match configuration.scripts, configuration.property? PropertyKey.scriptEvaluators.name with
  | some scripts, _ => do
      Bootstrap.log
        (Journal.debug s!"Using configured script evaluator factory {scripts.role.label}")
      return scripts
  | none, some name => loadScripts loader name
  | none, none => Bootstrap.instantiate .standard

/-- The sources of metadata: documents first, and mappings only if there are any. -/
def sourcesOf (documents : Option Metadata.Documents) (mappings : SealedMappings) :
    List Metadata.Source :=
  documents.toList.map .documents ++ if mappings.isEmpty then [] else [.mappings mappings]

/-- The notes on a factory that is ready. -/
def announcement (factory : Factory) : Journal :=
  let settings := factory.settings
  let chosen (label role : String) : Journal := Journal.debug s!"Using {label} as {role}"
  chosen settings.interpolator.role.label "message interpolator" ++
    chosen settings.traversal.role.label "traversable resolver" ++
    chosen settings.naming.role.label "parameter name provider" ++
    chosen settings.clock.role.label "clock provider" ++
    chosen settings.scripts.role.label "script evaluator factory" ++
    Journal.info
      (s!"Validator factory ready: {factory.mappings.size} mapping(s), " ++
        s!"{factory.registry.size} constraint type(s), " ++
        s!"fail fast: {settings.flags.failFast}")

/-- Build a factory. The shared loader serves a configuration that brings none of its own. -/
def build (shared : Component.Loader) (configuration : Configuration) : Bootstrap Factory := do
  let loader := configuration.loader.getD shared
  let interpolator ← Bootstrap.configuredOr configuration.interpolator .standard
  let traversal ← Bootstrap.configuredOr configuration.traversal .standard
  let naming ← Bootstrap.configuredOr configuration.naming .standard
  let clock ← Bootstrap.configuredOr configuration.clock .standard
  let validators ← Bootstrap.configuredOr configuration.validators .standard
  let documents ← readDocuments configuration
  let (collecting, configuration) := configuration.collect loader
  let collected ← collecting
  let registry ← register collected.seal
  let flags ← Bootstrap.ofExcept configuration.resolve
  let scripts ← chooseScripts loader configuration
  let factory : Factory := {
    settings := {
      interpolator, traversal, naming, clock, validators, scripts, flags
      extractors := .configured configuration.extractors }
    sources := sourcesOf documents collected.seal
    mappings := collected.seal
    registry }
  Bootstrap.log (announcement factory)
  return factory

end BeanConstraints.Factory
