/-
# Configurations

All that a factory is built from: providers, flags, mappings, mapping documents
and properties. Whatever is not given has a standard value. The mappings can be
handed over once; collecting them leaves none behind.
-/

import BeanConstraints.Bootstrap.Collection
import BeanConstraints.Extraction
import BeanConstraints.Factory.Flags
import BeanConstraints.Metadata.Source

namespace BeanConstraints

/-- What a factory is built from. -/
structure Configuration where
  interpolator : Option (Instance Interpolator) := none
  traversal : Option (Instance Traversal) := none
  naming : Option (Instance ParameterNaming) := none
  clock : Option (Instance Clock) := none
  validators : Option (Instance ValidatorSupply) := none
  /-- Given here, it wins over the property that names one. -/
  scripts : Option (Instance ScriptEvaluators) := none
  /-- Extractors on top of the standard ones. -/
  extractors : List Extractor := []
  streams : List MappingStream := []
  parser : Option MappingParser := none
  /-- Without one, components come from the registry of the whole process. -/
  loader : Option Component.Loader := none
  flags : Flags := {}
  mappings : List Mapping := []
  properties : Properties := .empty

namespace Configuration

/-- Nothing is given. -/
def empty : Configuration := {}

/-- Set a property. -/
def setProperty (configuration : Configuration) (key value : String) : Configuration :=
  { configuration with properties := configuration.properties.insert key value }

/-- Set properties, a later value winning over an earlier one. -/
def setProperties (configuration : Configuration) (entries : List (String × String)) :
    Configuration :=
  { configuration with properties := configuration.properties.insertAll entries }

/-- The value of any property. -/
def property? (configuration : Configuration) (key : String) : Option String :=
  configuration.properties.get? key

/-- The flags in effect. -/
def resolve (configuration : Configuration) : Except Fault Flags :=
  Flags.resolve configuration.properties configuration.flags

/-- Collect the mappings of all sources. The configuration hands its own mappings over, so it
has none afterwards, however collecting ends. -/
def collect (configuration : Configuration) (loader : Component.Loader) :
    Bootstrap MappingSet × Configuration :=
  (Bootstrap.collect loader configuration.mappings
      (configuration.property? PropertyKey.contributors.name),
    { configuration with mappings := [] })

/-- How a configuration is shown for inspection. -/
def debug (configuration : Configuration) : String :=
  let quotedPair (entry : String × String) : String × String :=
    (Text.quoted entry.1, Text.quoted entry.2)
  Text.labelledOpen "ConfigurationState" [
    ("fail_fast", toString configuration.flags.failFast),
    ("method_validation", configuration.flags.rules.debug),
    ("traversable_resolver_result_cache", toString configuration.flags.resultCache),
    ("value_extractors", toString configuration.extractors.length),
    ("mapping_streams", toString configuration.streams.length),
    ("programmatic_mappings", toString configuration.mappings.length),
    ("properties", Text.braced (configuration.properties.entries.map quotedPair))]

end Configuration

end BeanConstraints
