/-
# Metadata managers

A manager builds the metadata of bean types under one key and keeps what it has
built. The key is all that the metadata depends on besides the sources and the
registry: the provider of parameter names by its identity, the extractors and the
rules for methods by their content. What was built stands behind a lock, which is
held while more is built.
-/

import BeanConstraints.Extraction
import BeanConstraints.Locked
import BeanConstraints.Metadata.Bean
import BeanConstraints.MethodRules
import BeanConstraints.Text.Quoted

namespace BeanConstraints.Metadata

/-- The settings under which metadata is built. -/
structure Key where
  naming : Instance ParameterNaming
  extractors : Extractors
  rules : MethodRules

namespace Key

/-- Whether two keys stand for the same settings. -/
def agrees (first second : Key) : Bool :=
  first.naming.same second.naming && first.extractors == second.extractors &&
    first.rules == second.rules

/-- The key as notes name it. -/
def text (key : Key) : String :=
  s!"parameter names: {key.naming.role.label}, {key.extractors.size} value extractor(s), " ++
    key.rules.text

end Key

/-- Metadata that was built, with the number of its making. -/
structure Built where
  serial : Nat
  bean : Bean
  deriving DecidableEq, Inhabited

/-- Builds metadata under a key and keeps it. -/
structure Manager where
  key : Key
  sources : List Source
  beans : Locked String Built := .empty
  /-- How often metadata was built. -/
  made : Nat := 0

namespace Manager

/-- A new manager, which has built nothing yet. -/
def start (key : Key) (sources : List Source) : Journal × Manager :=
  (Journal.debug
    s!"Creating metadata manager with {sources.length} provider(s) for {key.text}",
    ⟨key, sources, .empty, 0⟩)

/-- The number of bean types whose metadata is kept. -/
def size (manager : Manager) : Nat :=
  manager.beans.size

/-- Forget all metadata. The numbers of making go on. -/
def clear (manager : Manager) : Manager :=
  { manager with beans := manager.beans.clear }

/-- What the manager would build for a bean type now. -/
def build (manager : Manager) (registry : Registry) (typeName : String) :
    Journal × Option Bean :=
  Bean.build manager.key.naming.role registry manager.sources typeName

/-- The metadata of a bean type, built at the first request. If the provider of parameter names
crashes, the lock is left poisoned, nothing more is kept and there is no answer. -/
def bean (manager : Manager) (registry : Registry) (typeName : String) :
    Journal × Manager × Option Built :=
  match manager.beans.get? typeName with
  | some built => ([], manager, some built)
  | none =>
      match manager.build registry typeName with
      | (journal, none) => (journal, { manager with beans := manager.beans.crash }, none)
      | (journal, some bean) =>
          let built : Built := ⟨manager.made, bean⟩
          (journal,
            { manager with
              beans := manager.beans.insert typeName built
              made := manager.made + 1 },
            some built)

/-- The kinds of the sources in their order. -/
def kinds (manager : Manager) : List String :=
  manager.sources.map Source.kind

/-- How a manager is shown for inspection. -/
def debug (manager : Manager) : String :=
  Text.labelled "MetadataManager" [
    ("providers", Text.bracketed (manager.kinds.map Text.quoted)),
    ("parameter_name_provider", Text.quoted manager.key.naming.role.label),
    ("value_extractors", toString manager.key.extractors.size),
    ("method_validation", manager.key.rules.debug),
    ("cached_beans", toString manager.size)]

end Manager

end BeanConstraints.Metadata
