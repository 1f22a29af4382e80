/-
# What building amounts to

An outline is a factory without the identities of its parts. Building yields one
outline, or one fault, for a configuration and a loader, and the outline is said
here without counters, journal or steps: the documents, the contributions, the
registry, the flags and the script evaluators, each of which may stand in the way.
What metadata says can be read off an outline as well as off the factory.
-/

import BeanConstraints.Factory.Build
import BeanConstraints.Proofs.Collection

namespace BeanConstraints

/-- A result that was reached in two steps had a first one. -/
theorem ok_of_bind {ε α β : Type} {first : Except ε α} {next : α → Except ε β} {result : β}
    (reached : (first >>= next) = .ok result) :
    ∃ value, first = .ok value ∧ next value = .ok result := by
  cases first with
  | error fault => cases reached
  | ok value => exact ⟨value, rfl, reached⟩

/-- A result that is seen through a view was there before. -/
theorem ok_of_map {ε α β : Type} {result : Except ε α} {view : α → β} {seen : β}
    (reached : result.map view = .ok seen) : ∃ value, result = .ok value ∧ view value = seen := by
  cases result with
  | error fault => cases reached
  | ok value => exact ⟨value, rfl, Except.ok.inj reached⟩

namespace SealedMappings

/-- The mappings under no identities in particular. -/
def anonymous (sealed : SealedMappings) : SealedMappings :=
  ⟨sealed.mappings.map Mapping.anonymous⟩

@[simp]
theorem isEmpty_anonymous (sealed : SealedMappings) :
    sealed.anonymous.isEmpty = sealed.isEmpty :=
  List.isEmpty_map

@[simp]
theorem definitions_anonymous (sealed : SealedMappings) :
    sealed.anonymous.definitions = sealed.definitions :=
  List.flatMap_map _ _ _

end SealedMappings

namespace Metadata

/-- The source without the identities of its mappings. -/
def Source.anonymous : Source → Source
  | documents filed => documents filed
  | mappings sealed => mappings sealed.anonymous

/-- The identities of mappings do not matter for what a source places. -/
theorem placementsOn_anonymous (sources : List Source) (typeName : String) :
    placementsOn (sources.map Source.anonymous) typeName = placementsOn sources typeName := by
  have alike (source : Source) : source.anonymous.beansOf typeName = source.beansOf typeName := by
    cases source with
    | documents filed => rfl
    | mappings sealed => exact List.filterMap_map
  have kinds (source : Source) : source.anonymous.kind = source.kind := by
    cases source <;> rfl
  unfold placementsOn
  rw [List.flatMap_map]
  simp only [alike, kinds]

namespace Documents

/-- What a document says, or the fault of reading it. -/
def parsed (parser : MappingParser) (stream : MappingStream) :
    Except Fault (List BeanPlacements) :=
  (parser stream).mapError fun reasons => .mappingParse stream.name (": ".intercalate reasons)

/-- Documents are read one by one and filed in their order. -/
theorem yields_readFrom (parser : MappingParser) (documents : Documents)
    (streams : List MappingStream) :
    (readFrom parser documents streams).Yields id
      ((streams.mapM (parsed parser)).map fun read => read.foldl add documents) := by
  induction streams generalizing documents with
  | nil => exact Bootstrap.yields_pure documents id
  | cons stream rest ih =>
      apply Bootstrap.Yields.after_log
      rw [List.mapM_cons, parsed]
      cases parser stream with
      | error reasons => exact Bootstrap.yields_fail _ _
      | ok beans =>
          apply Bootstrap.Yields.after_log
          have whole : ((Except.ok beans : Except Fault (List BeanPlacements)) >>= fun first =>
                rest.mapM (parsed parser) >>= fun others => pure (first :: others)).map
                (fun read => read.foldl add documents) =
              (rest.mapM (parsed parser)).map fun read => read.foldl add (documents.add beans) := by
            cases rest.mapM (parsed parser) <;> rfl
          exact whole ▸ ih (documents.add beans)

end Documents

end Metadata

namespace Configuration

/-- The documents of a configuration, if it has streams. -/
def documents (configuration : Configuration) : Except Fault (Option Metadata.Documents) :=
  match configuration.streams, configuration.parser with
  | [], _ => .ok none
  | stream :: rest, none => .error (.missingParser (stream :: rest).length)
  | stream :: rest, some parser =>
      ((stream :: rest).mapM (Metadata.Documents.parsed parser)).map
        fun read => some (read.foldl .add .empty)

/-- The names of the contributors that a property asks for. -/
def contributorNames (configuration : Configuration) : List String :=
  ((configuration.property? PropertyKey.contributors.name).map Property.names).getD []

/-- The script evaluators that a configuration leads to. -/
def chosenScripts (configuration : Configuration) (loader : Component.Loader) :
    Except Fault ScriptEvaluators :=
  match configuration.scripts, configuration.property? PropertyKey.scriptEvaluators.name with
  | some scripts, _ => .ok scripts.role
  | none, some name =>
      (loader.scriptEvaluators name).result.mapError (Fault.scriptEvaluators name)
  | none, none => .ok .standard

end Configuration

/-- The registry with the definitions of mappings on top of the built-in ones. -/
def Registry.extended (sealed : SealedMappings) : Except Fault Registry :=
  match (Registry.standard.register sealed).fault with
  | some fault => .error fault
  | none => .ok (Registry.standard.register sealed).registry

/-- A factory without the identities of its parts. -/
structure Outline where
  interpolator : Interpolator
  traversal : Traversal
  naming : ParameterNaming
  clock : Clock
  validators : ValidatorSupply
  scripts : ScriptEvaluators
  extractors : Extractors
  flags : Flags
  sources : List Metadata.Source
  mappings : SealedMappings
  registry : Registry
  store : Metadata.Store

namespace Factory

/-- What a factory is apart from identities. -/
def outline (factory : Factory) : Outline where
  interpolator := factory.settings.interpolator.role
  traversal := factory.settings.traversal.role
  naming := factory.settings.naming.role
  clock := factory.settings.clock.role
  validators := factory.settings.validators.role
  scripts := factory.settings.scripts.role
  extractors := factory.settings.extractors
  flags := factory.settings.flags
  sources := factory.sources.map Metadata.Source.anonymous
  mappings := factory.mappings.anonymous
  registry := factory.registry
  store := factory.store

/-- The outline of the factory that a configuration leads to, or the fault that stands in the
way. -/
def outlined (shared : Component.Loader) (configuration : Configuration) :
    Except Fault Outline := do
  let loader := configuration.loader.getD shared
  let documents ← configuration.documents
  let contents ← Bootstrap.contributions loader configuration.mappings
    configuration.contributorNames
  let registry ← Registry.extended ⟨contents⟩
  let flags ← configuration.resolve
  let scripts ← configuration.chosenScripts loader
  return {
    interpolator := (configuration.interpolator.map Instance.role).getD .standard
    traversal := (configuration.traversal.map Instance.role).getD .standard
    naming := (configuration.naming.map Instance.role).getD .standard
    clock := (configuration.clock.map Instance.role).getD .standard
    validators := (configuration.validators.map Instance.role).getD .standard
    scripts, flags, registry
    extractors := .configured configuration.extractors
    sources := sourcesOf documents ⟨contents⟩
    mappings := ⟨contents⟩
    store := .empty }

theorem yields_readDocuments (configuration : Configuration) :
    (readDocuments configuration).Yields id configuration.documents := by
  unfold readDocuments Configuration.documents
  cases configuration.streams with
  | nil => exact Bootstrap.yields_pure none id
  | cons stream rest =>
      cases configuration.parser with
      | none => exact Bootstrap.yields_fail _ _
      | some parser =>
          have read := (Metadata.Documents.yields_readFrom parser .empty (stream :: rest)).finish
            some fun documents => Bootstrap.yields_pure (some documents) id
          have same : ((((stream :: rest).mapM (Metadata.Documents.parsed parser)).map fun parsed =>
                parsed.foldl Metadata.Documents.add .empty).map some) =
              ((stream :: rest).mapM (Metadata.Documents.parsed parser)).map fun parsed =>
                some (parsed.foldl Metadata.Documents.add .empty) := by
            cases (stream :: rest).mapM (Metadata.Documents.parsed parser) <;> rfl
          rw [same] at read
          exact read

theorem yields_register (sealed : SealedMappings) :
    (register sealed).Yields id (Registry.extended sealed) := by
  unfold register Registry.extended
  apply Bootstrap.Yields.after_log
  cases (Registry.standard.register sealed).fault with
  | none => exact Bootstrap.yields_pure _ _
  | some fault => exact Bootstrap.yields_fail _ _

theorem yields_loadScripts (loader : Component.Loader) (name : String) :
    (loadScripts loader name).Yields Instance.role
      ((loader.scriptEvaluators name).result.mapError (Fault.scriptEvaluators name)) := by
  have loaded := (Bootstrap.yields_watched .scriptEvaluators name
    (loader.scriptEvaluators name)).mapFault (Fault.scriptEvaluators name)
  exact loaded.keep fun scripts => Bootstrap.Yields.after_log (Bootstrap.yields_instantiate scripts)

theorem yields_chooseScripts (loader : Component.Loader) (configuration : Configuration) :
    (chooseScripts loader configuration).Yields Instance.role
      (configuration.chosenScripts loader) := by
  unfold chooseScripts Configuration.chosenScripts
  cases configuration.scripts with
  | some scripts => exact Bootstrap.Yields.after_log (Bootstrap.yields_pure scripts _)
  | none =>
      cases configuration.property? PropertyKey.scriptEvaluators.name with
      | some name => exact yields_loadScripts loader name
      | none => exact Bootstrap.yields_instantiate _

/-- Registration does not look at identities. -/
theorem extended_anonymous (sealed : SealedMappings) :
    Registry.extended sealed.anonymous = Registry.extended sealed := by
  unfold Registry.extended Registry.register
  rw [SealedMappings.definitions_anonymous]

theorem sources_anonymous (documents : Option Metadata.Documents) (sealed : SealedMappings) :
    (sourcesOf documents sealed).map Metadata.Source.anonymous =
      sourcesOf documents sealed.anonymous := by
  unfold sourcesOf
  rw [List.map_append, List.map_map, SealedMappings.isEmpty_anonymous]
  cases sealed.isEmpty <;> rfl

/-- Building yields the outline. -/
theorem yields_build (shared : Component.Loader) (configuration : Configuration) :
    (build shared configuration).Yields outline (outlined shared configuration) := by
  unfold build outlined
  apply (Bootstrap.yields_configuredOr configuration.interpolator _).bind_ok
  intro _ interpolator
  apply (Bootstrap.yields_configuredOr configuration.traversal _).bind_ok
  intro _ traversal
  apply (Bootstrap.yields_configuredOr configuration.naming _).bind_ok
  intro _ naming
  apply (Bootstrap.yields_configuredOr configuration.clock _).bind_ok
  intro _ clock
  apply (Bootstrap.yields_configuredOr configuration.validators _).bind_ok
  intro _ validators
  apply (yields_readDocuments configuration).bind
  intro documents
  apply (Bootstrap.yields_collect _ _ _).bind
  intro collected
  have registered := yields_register collected.seal
  rw [← extended_anonymous] at registered
  apply registered.bind
  intro registry
  apply (Bootstrap.yields_ofExcept _).bind
  intro flags
  apply (yields_chooseScripts _ _).bind
  intro scripts
  apply Bootstrap.Yields.after_log
  intro counters
  apply congrArg Except.ok
  simp only [outline, interpolator, traversal, naming, clock, validators, sources_anonymous]
  rfl

/-- The parts of an outline: the documents and contributions that were not in the way, and the
registry, the flags and the script evaluators that came of the others. -/
theorem outlined_cases {shared : Component.Loader} {configuration : Configuration}
    {outline : Outline} (said : outlined shared configuration = .ok outline) :
    ∃ documents contents, configuration.documents = .ok documents ∧
      Bootstrap.contributions (configuration.loader.getD shared) configuration.mappings
        configuration.contributorNames = .ok contents ∧
      Registry.extended ⟨contents⟩ = .ok outline.registry ∧
      configuration.resolve = .ok outline.flags ∧
      configuration.chosenScripts (configuration.loader.getD shared) = .ok outline.scripts ∧
      outline = {
        interpolator := (configuration.interpolator.map Instance.role).getD .standard
        traversal := (configuration.traversal.map Instance.role).getD .standard
        naming := (configuration.naming.map Instance.role).getD .standard
        clock := (configuration.clock.map Instance.role).getD .standard
        validators := (configuration.validators.map Instance.role).getD .standard
        scripts := outline.scripts
        extractors := .configured configuration.extractors
        flags := outline.flags
        sources := sourcesOf documents ⟨contents⟩
        mappings := ⟨contents⟩
        registry := outline.registry
        store := .empty } := by
  unfold outlined at said
  obtain ⟨documents, read, said⟩ := ok_of_bind said
  obtain ⟨contents, collected, said⟩ := ok_of_bind said
  obtain ⟨registry, extended, said⟩ := ok_of_bind said
  obtain ⟨flags, resolved, said⟩ := ok_of_bind said
  obtain ⟨scripts, chosen, said⟩ := ok_of_bind said
  cases said
  exact ⟨documents, contents, read, collected, extended, resolved, chosen, rfl⟩

section

variable {shared : Component.Loader} {configuration : Configuration} {counters : Counters}
  {factory : Factory}

/-- A factory that was built has the outline that its configuration leads to. -/
theorem outlined_of_built
    (built : ((build shared configuration).run counters).result = .ok factory) :
    outlined shared configuration = .ok factory.outline := by
  rw [← yields_build shared configuration counters, built]
  rfl

/-- A factory that was just built has made no manager yet. -/
theorem store_of_built
    (built : ((build shared configuration).run counters).result = .ok factory) :
    factory.store = .empty := by
  obtain ⟨_, _, _, _, _, _, _, outline⟩ := outlined_cases (outlined_of_built built)
  exact congrArg Outline.store outline

end

end Factory

end BeanConstraints
