/-
# The order in which contributors are named

Naming contributors in another order leads to the same factory as far as anyone
can tell: the same definitions in effect, the same flags, and the same constraints
on every bean type, in another order. If a constraint is defined twice, both orders
fail with a repetition, though not always with the same one, since what counts as
the repetition is what comes later.
-/

import BeanConstraints.Component.Registry
import BeanConstraints.Proofs.Bean
import BeanConstraints.Proofs.Decision
import BeanConstraints.Proofs.Store

namespace BeanConstraints

namespace Configuration

/-- The configuration with contributors named in its property. -/
def withContributors (configuration : Configuration) (names : String) : Configuration :=
  configuration.setProperty PropertyKey.contributors.name names

variable (configuration : Configuration) (names : String)

@[simp]
theorem contributorNames_withContributors :
    (configuration.withContributors names).contributorNames = Property.names names := by
  rw [contributorNames, property?, withContributors, setProperty, Table.get?_insert_self]
  rfl

/-- The other properties do not change. -/
theorem property?_withContributors (key : PropertyKey) (other : key ≠ .contributors) :
    (configuration.withContributors names).property? key.name =
      configuration.property? key.name := by
  refine Table.get?_insert_of_ne _ _ ?_
  cases key <;> first | exact absurd rfl other | decide

theorem resolve_withContributors :
    (configuration.withContributors names).resolve = configuration.resolve := by
  have flag (key : PropertyKey) (other : key ≠ .contributors) :
      (configuration.withContributors names).properties.flag? key =
        configuration.properties.flag? key :=
    congrArg (Option.map Property.isTrue) (configuration.property?_withContributors names key other)
  unfold resolve Flags.resolve Flags.overrideRules Flags.override
  rw [flag .failFast nofun, flag .parameterOverride nofun, flag .multipleCascade nofun,
    flag .parallelParameters nofun, flag .resultCache nofun]
  rfl

theorem flagsFault_withContributors :
    (configuration.withContributors names).flagsFault = configuration.flagsFault := by
  rw [flagsFault, property?_withContributors _ _ .failFast nofun]
  rfl

theorem scriptsFault_withContributors (loader : Component.Loader) :
    (configuration.withContributors names).scriptsFault loader =
      configuration.scriptsFault loader := by
  rw [scriptsFault, property?_withContributors _ _ .scriptEvaluators nofun]
  rfl

/-- The definitions follow the order of the names. -/
theorem definitions_perm (loader : Component.Loader) {first second : String}
    (reordered : (Property.names first).Perm (Property.names second)) :
    ((configuration.withContributors first).definitions loader).Perm
      ((configuration.withContributors second).definitions loader) := by
  unfold definitions
  rw [contributorNames_withContributors, contributorNames_withContributors]
  exact (reordered.flatMap_right _).append_left _

end Configuration

namespace Metadata

/-- Reordered mappings place the same constraints on a bean type, in another order. -/
theorem placementsOn_sourcesOf_perm (documents : Option Documents) {first second : List Mapping}
    (reordered : first.Perm second) (typeName : String) :
    (placementsOn (Factory.sourcesOf documents ⟨first⟩) typeName).Perm
      (placementsOn (Factory.sourcesOf documents ⟨second⟩) typeName) := by
  -- Without mappings there is no source, but a source without mappings places nothing either.
  have split (mappings : List Mapping) :
      placementsOn (Factory.sourcesOf documents ⟨mappings⟩) typeName =
        placementsOn (documents.toList.map .documents) typeName ++
          (mappings.filterMap fun mapping => mapping.bean? typeName).flatMap fun bean =>
            bean.placements.map fun placement => ("programmatic", placement) := by
    rw [Factory.sourcesOf, placementsOn, List.flatMap_append]
    cases mappings with
    | nil => rfl
    | cons mapping rest => exact congrArg (_ ++ ·) (List.append_nil _)
  rw [split, split]
  exact ((reordered.filterMap _).flatMap_right _).append_left _

end Metadata

namespace Factory

/-- What a validator with the settings of the factory is told about a bean type. -/
def metadata (factory : Factory) (typeName : String) : Option Metadata.Bean :=
  let (_, used, validator) := factory.validator
  (used.bean validator typeName).2.2.map Metadata.Built.bean

/-- What a validator with changed settings is told about a bean type. -/
def metadataWith (factory : Factory) (overrides : List Override) (typeName : String) :
    Option Metadata.Bean :=
  let (_, used, validator) := factory.validatorWith overrides
  (used.bean validator typeName).2.2.map Metadata.Built.bean

/-- The first validator of a new factory is told what its manager builds. -/
theorem metadataWith_of_unused {factory : Factory} (unused : factory.store = .empty)
    (overrides : List Override) (typeName : String) :
    factory.metadataWith overrides typeName =
      (Metadata.Bean.build (factory.settings.overridden overrides).naming.role factory.registry
        factory.sources typeName).2 := by
  let key := (factory.settings.overridden overrides).key
  let manager : Metadata.Manager := ⟨key, factory.sources, .empty, 0⟩
  have there : (factory.store.file key factory.sources).2.1.manager? 0 = some manager := by
    rw [Metadata.Store.manager?_file, unused]
    rfl
  have fresh : manager.IsFresh factory.registry := Metadata.Manager.isFresh_of_empty _ rfl
  refine Eq.trans ?_ (fresh.answer typeName)
  rw [← Metadata.Store.bean_answer _ there]
  rw [metadataWith, validatorWith, validatorFrom, unused]
  rfl

theorem metadata_of_unused {factory : Factory} (unused : factory.store = .empty)
    (typeName : String) :
    factory.metadata typeName =
      (Metadata.Bean.build factory.settings.naming.role factory.registry factory.sources
        typeName).2 :=
  metadataWith_of_unused unused [] typeName

/-- The parts of an outline, in terms of the configuration and of what discovery offers. -/
theorem outlined_eq_ok {shared : Component.Loader} {configuration : Configuration}
    {outline : Outline} (said : outlined shared configuration = .ok outline) :
    ∃ documents discovered, configuration.documents = .ok documents ∧
      (configuration.loader.getD shared).discover.result = .ok discovered ∧
      configuration.resolve = .ok outline.flags ∧
      outline.naming = (configuration.naming.map Instance.role).getD .standard ∧
      ∃ contents, contents =
          (Mapping.distinct configuration.mappings).map Mapping.anonymous ++
            Bootstrap.added .discovered discovered ++
            Bootstrap.added .propertyNamed (configuration.contributorNames.map fun name =>
              (name, (configuration.loader.getD shared).loaded name)) ∧
        (SealedMappings.mk contents).definitions =
          configuration.definitions (configuration.loader.getD shared) ∧
        Registry.extended ⟨contents⟩ = .ok outline.registry ∧
        outline.sources = sourcesOf documents ⟨contents⟩ := by
  obtain ⟨documents, contents, read, collected, extended, resolved, _, parts⟩ :=
    outlined_cases said
  have naming := congrArg Outline.naming parts
  have sources := congrArg Outline.sources parts
  have definitions := definitions_of_contributions collected
  unfold Bootstrap.contributions at collected
  obtain ⟨discovered, offered, collected⟩ := ok_of_bind collected
  obtain ⟨named, loads, collected⟩ := ok_of_bind collected
  cases collected
  rw [Bootstrap.named_eq_loaded loads] at definitions extended sources
  exact ⟨documents, discovered, read, offered, resolved, naming, _, rfl, definitions, extended,
    sources⟩

section

variable {shared : Component.Loader} {configuration : Configuration} {first second : String}

/-- Outlines that differ in the order of contributors have the same definitions, flags and provider
of parameter names, and sources that place the same constraints. -/
theorem outlines_alike {one two : Outline}
    (reordered : (Property.names first).Perm (Property.names second))
    (saidFirst : outlined shared (configuration.withContributors first) = .ok one)
    (saidSecond : outlined shared (configuration.withContributors second) = .ok two) :
    one.registry = two.registry ∧ one.flags = two.flags ∧ one.naming = two.naming ∧
      ∀ typeName, (Metadata.placementsOn one.sources typeName).Perm
        (Metadata.placementsOn two.sources typeName) := by
  obtain ⟨documents, discovered, read, offered, flags, naming, contents, whole, definitions,
    extended, sources⟩ := outlined_eq_ok saidFirst
  obtain ⟨documents', discovered', read', offered', flags', naming', contents', whole',
    definitions', extended', sources'⟩ := outlined_eq_ok saidSecond
  have sameDocuments : documents = documents' := Except.ok.inj (read.symm.trans read')
  have sameOffers : discovered = discovered' := Except.ok.inj (offered.symm.trans offered')
  subst sameDocuments sameOffers
  have contentsReordered : contents.Perm contents' := by
    rw [whole, whole', Configuration.contributorNames_withContributors,
      Configuration.contributorNames_withContributors]
    exact ((reordered.map _).flatMap_right _).append_left _
  have definitionsReordered := configuration.definitions_perm
    (configuration.loader.getD shared) reordered
  refine ⟨?_, ?_, naming.trans naming'.symm, ?_⟩
  · refine Registry.extended_perm ?_ extended extended'
    rw [definitions, definitions']
    exact definitionsReordered
  · rw [Configuration.resolve_withContributors] at flags flags'
    exact Except.ok.inj (flags.symm.trans flags')
  · intro typeName
    rw [sources, sources']
    exact Metadata.placementsOn_sourcesOf_perm documents contentsReordered typeName

/-- Factories that differ in the order of contributors differ in the order of constraints only. -/
theorem built_alike {counters counters' : Counters} {factory twin : Factory}
    (reordered : (Property.names first).Perm (Property.names second))
    (builtFirst : ((build shared (configuration.withContributors first)).run counters).result =
      .ok factory)
    (builtSecond : ((build shared (configuration.withContributors second)).run counters').result =
      .ok twin) :
    factory.registry = twin.registry ∧ factory.settings.flags = twin.settings.flags ∧
      ∀ typeName, Option.Rel (fun bean other => bean.constraints.Perm other.constraints)
        (factory.metadata typeName) (twin.metadata typeName) := by
  obtain ⟨registry, flags, naming, placements⟩ := outlines_alike reordered
    (outlined_of_built builtFirst) (outlined_of_built builtSecond)
  have sameRegistry : factory.registry = twin.registry := registry
  have sameNaming : factory.settings.naming.role = twin.settings.naming.role := naming
  refine ⟨sameRegistry, flags, fun typeName => ?_⟩
  have placed := placements typeName
  simp only [outline, Metadata.placementsOn_anonymous] at placed
  rw [metadata_of_unused (store_of_built builtFirst),
    metadata_of_unused (store_of_built builtSecond), sameRegistry, sameNaming]
  exact Metadata.build_perm _ _ typeName placed

end

end Factory

namespace Configuration

variable (configuration : Configuration) (shared : Component.Loader)

/-- If all names load, they are not what is wrong. -/
theorem fault?_withContributors {names : String}
    (loads : ∀ name ∈ Property.names names,
      (configuration.loader.getD shared).entryFault name = none) :
    (configuration.withContributors names).fault? shared =
      ((configuration.streamsFault.or
            (Fault.of? (configuration.loader.getD shared).discover.result)).or
          ((Registration.firstRepeated ((configuration.withContributors names).definitions
            (configuration.loader.getD shared))).map Registration.repetition)).or
        (configuration.flagsFault.or
          (configuration.scriptsFault (configuration.loader.getD shared))) := by
  have loading : (Property.names names).findSome? (configuration.loader.getD shared).entryFault =
      none := List.findSome?_eq_none_iff.mpr loads
  have loader : (configuration.withContributors names).loader = configuration.loader := rfl
  have streams : (configuration.withContributors names).streamsFault =
      configuration.streamsFault := rfl
  simp only [fault?, loader, streams, contributorNames_withContributors, loading,
    flagsFault_withContributors, scriptsFault_withContributors, Option.or_none, Option.or_assoc]

/-- A fault that is not on the definitions is a repetition only if discovery ended with it. -/
theorem discovery_of_duplicate {fault : Fault} {constraint : Constraint} {origin : Origin}
    (duplicate : fault = .duplicateDefinition constraint origin)
    (loader : Component.Loader)
    (standing : ((configuration.streamsFault.or (Fault.of? loader.discover.result)).or
      (configuration.flagsFault.or (configuration.scriptsFault loader))) = some fault) :
    loader.discover.result = .error fault := by
  subst duplicate
  rcases Option.or_eq_some_iff.mp standing with before | ⟨_, after⟩
  · rcases Option.or_eq_some_iff.mp before with streams | ⟨_, discovery⟩
    · unfold streamsFault at streams
      split at streams
      · obtain ⟨stream, _, wrong⟩ := List.exists_of_findSome?_eq_some streams
        unfold streamFault at wrong
        split at wrong <;> cases wrong
      · split at streams <;> cases streams
    · cases found : loader.discover.result with
      | error fault =>
          rw [found] at discovery
          cases discovery
          rfl
      | ok discovered =>
          rw [found] at discovery
          cases discovery
  · rcases Option.or_eq_some_iff.mp after with flags | ⟨_, scripts⟩
    · unfold flagsFault at flags
      split at flags <;> cases flags
    · unfold scriptsFault at scripts
      split at scripts
      · obtain ⟨cause, _, wrong⟩ := Option.map_eq_some_iff.mp scripts
        cases wrong
      · cases scripts

/-- Whether a constraint has more than one definition. -/
def Repeats (loader : Component.Loader) (constraint : Constraint) : Prop :=
  2 ≤ ((configuration.definitions loader).map fun entry => entry.2.constraint).count constraint

/-- What two orders of contributors report: the same fault, which is on a repetition only if
discovery ended with it, or each a repetition of its own. -/
def Counterparts (loader : Component.Loader) (fault counterpart : Fault) : Prop :=
  (fault = counterpart ∧ ∀ constraint origin, fault = .duplicateDefinition constraint origin →
      loader.discover.result = .error fault) ∨
    ∃ constraint origin constraint' origin',
      fault = .duplicateDefinition constraint origin ∧
        counterpart = .duplicateDefinition constraint' origin' ∧
        configuration.Repeats loader constraint ∧ configuration.Repeats loader constraint' ∧
        ((∀ one other, configuration.Repeats loader one → configuration.Repeats loader other →
          one = other) → constraint = constraint')

theorem repeats_perm {loader : Component.Loader} {first second : String}
    (reordered : (Property.names first).Perm (Property.names second)) (constraint : Constraint) :
    (configuration.withContributors second).Repeats loader constraint ↔
      (configuration.withContributors first).Repeats loader constraint := by
  unfold Repeats
  rw [((configuration.definitions_perm loader reordered).map _).count_eq]

/-- Both orders of contributors are at fault or neither is, and faults are counterparts. -/
theorem faults_alike {first second : String}
    (reordered : (Property.names first).Perm (Property.names second))
    (loads : ∀ name ∈ Property.names first,
      (configuration.loader.getD shared).entryFault name = none) :
    Option.Rel ((configuration.withContributors first).Counterparts
        (configuration.loader.getD shared))
      ((configuration.withContributors first).fault? shared)
      ((configuration.withContributors second).fault? shared) := by
  let loader := configuration.loader.getD shared
  let one := configuration.withContributors first
  let other := configuration.withContributors second
  have loadsToo (name : String) (listed : name ∈ Property.names second) :
      loader.entryFault name = none := loads name (reordered.mem_iff.mpr listed)
  rw [fault?_withContributors configuration shared loads,
    fault?_withContributors configuration shared loadsToo]
  -- What stands before and after the definitions is the same in both orders.
  generalize beforeEq : configuration.streamsFault.or
    (Fault.of? (configuration.loader.getD shared).discover.result) = before
  generalize afterEq : configuration.flagsFault.or
    (configuration.scriptsFault (configuration.loader.getD shared)) = after
  have shared' (fault : Fault) (standing : before.or after = some fault) :
      one.Counterparts loader fault fault := by
    refine .inl ⟨rfl, fun constraint origin duplicate => ?_⟩
    rw [← beforeEq, ← afterEq] at standing
    exact configuration.discovery_of_duplicate duplicate loader standing
  cases before with
  | some fault => exact .some (shared' fault rfl)
  | none =>
      have perm := (configuration.definitions_perm loader reordered).map
        fun entry => entry.2.constraint
      have nodup := perm.nodup_iff
      rw [← Registration.firstRepeated_eq_none_iff, ← Registration.firstRepeated_eq_none_iff]
        at nodup
      change Option.Rel _
        (((Registration.firstRepeated (one.definitions loader)).map Registration.repetition).or
          after)
        (((Registration.firstRepeated (other.definitions loader)).map Registration.repetition).or
          after)
      cases repeated : Registration.firstRepeated (one.definitions loader) with
      | none =>
          rw [nodup.mp repeated]
          cases after with
          | none => exact .none
          | some fault => exact .some (shared' fault rfl)
      | some entry =>
          cases again : Registration.firstRepeated (other.definitions loader) with
          | none =>
              have nothing := nodup.mpr again
              rw [repeated] at nothing
              cases nothing
          | some counterpart =>
              have twice : one.Repeats loader entry.2.constraint :=
                (Registration.two_le_count_of_firstRepeated repeated).2
              have twiceToo : one.Repeats loader counterpart.2.constraint :=
                (configuration.repeats_perm reordered _).mp
                  (Registration.two_le_count_of_firstRepeated again).2
              exact .some (.inr ⟨_, _, _, _, rfl, rfl, twice, twiceToo,
                fun single => single _ _ twice twiceToo⟩)

/-- Counterparts are faults of one kind. -/
theorem Counterparts.code_eq {configuration : Configuration} {loader : Component.Loader}
    {fault counterpart : Fault}
    (counterparts : configuration.Counterparts loader fault counterpart) :
    fault.code = counterpart.code := by
  rcases counterparts with ⟨rfl, _⟩ | ⟨_, _, _, _, rfl, rfl, _⟩
  · rfl
  · rfl

end Configuration

namespace Factory

/-- If the named contributors all load, naming them in another order leads to factories with the
same checkers of every constraint, the same flags and the same constraints on every bean type in
another order, or else to faults of one kind. Repetitions are each on a constraint that is defined
at least twice, the same one if there is no other, unless discovery ended with the fault. -/
theorem build_withContributors_perm (shared : Component.Loader) (configuration : Configuration)
    (first second : String) (reordered : (Property.names first).Perm (Property.names second))
    (loads : ∀ name ∈ Property.names first, name ≠ "" ∧
      ∃ contributor, ((configuration.loader.getD shared).contributor name).result = .ok contributor)
    (counters counters' : Counters) :
    match ((build shared (configuration.withContributors first)).run counters).result,
      ((build shared (configuration.withContributors second)).run counters').result with
    | .ok factory, .ok twin =>
        (∀ constraint, factory.registry.checkersOf constraint =
            twin.registry.checkersOf constraint) ∧
          factory.settings.flags = twin.settings.flags ∧
          ∀ typeName, Option.Rel (fun bean other => bean.constraints.Perm other.constraints)
            (factory.metadata typeName) (twin.metadata typeName)
    | .error fault, .error counterpart =>
        fault.code = counterpart.code ∧
          (configuration.withContributors first).Counterparts (configuration.loader.getD shared)
            fault counterpart
    | _, _ => False := by
  have loading (name : String) (listed : name ∈ Property.names first) :
      (configuration.loader.getD shared).entryFault name = none := by
    obtain ⟨named, contributor, made⟩ := loads name listed
    unfold Component.Loader.entryFault
    rw [if_neg (fun empty => named (String.isEmpty_iff.mp empty)), made]
    rfl
  have alike := configuration.faults_alike shared reordered loading
  rw [← fault_build shared _ counters, ← fault_build shared _ counters'] at alike
  cases one : ((build shared (configuration.withContributors first)).run counters).result with
  | ok factory =>
      cases two : ((build shared (configuration.withContributors second)).run counters').result with
      | ok twin =>
          obtain ⟨registry, flags, metadata⟩ := built_alike reordered one two
          exact ⟨fun constraint => registry ▸ rfl, flags, metadata⟩
      | error counterpart =>
          rw [one, two] at alike
          cases alike
  | error fault =>
      cases two : ((build shared (configuration.withContributors second)).run counters').result with
      | ok twin =>
          rw [one, two] at alike
          cases alike
      | error counterpart =>
          rw [one, two] at alike
          cases alike with
          | some counterparts => exact ⟨counterparts.code_eq, counterparts⟩

/-- A loader with a contributor of one mapping for every name. -/
def offering (discovery : Except Fault (List (String × Component.Contributor)))
    (draft : String → MappingDraft) : Component.Loader where
  discover := ⟨[], discovery⟩
  contributor name := ⟨[], .ok ⟨name, [draft name]⟩⟩
  scriptEvaluators name := ⟨[], .error (Component.notRegistered .scriptEvaluators name)⟩

/-- A definition of a constraint of its own, which holds on a field of orders. -/
def required (name : String) : MappingDraft where
  definitions := [⟨⟨name⟩, [⟨name, "Object"⟩], true⟩]
  beans := [⟨"Order", [⟨.field name, ⟨name⟩⟩]⟩]

/-- A definition of a constraint that others define as well. -/
def contested (name : String) : MappingDraft where
  definitions := [⟨⟨"acme.Sku"⟩, [⟨name, "Object"⟩], true⟩]

/-- Two contributors place their constraints on one bean type in the order of their names. -/
theorem build_withContributors_perm_of_orders : ∃ factory twin : Factory,
    ((build (offering (.ok []) required) (.withContributors .empty "a,b")).run {}).result =
        .ok factory ∧
      ((build (offering (.ok []) required) (.withContributors .empty "b,a")).run {}).result =
        .ok twin ∧
      ((factory.metadata "Order").map fun bean =>
        bean.constraints.map fun held => held.elementName) = some ["a", "b"] ∧
      ((twin.metadata "Order").map fun bean =>
        bean.constraints.map fun held => held.elementName) = some ["b", "a"] ∧
      (∀ constraint, factory.registry.checkersOf constraint =
        twin.registry.checkersOf constraint) ∧
      ∀ typeName, Option.Rel (fun bean other => bean.constraints.Perm other.constraints)
        (factory.metadata typeName) (twin.metadata typeName) := by
  let elements (factory : Factory) : Option (List String) :=
    (factory.metadata "Order").map fun bean => bean.constraints.map fun held => held.elementName
  have placedOne : ((build (offering (.ok []) required)
      (.withContributors .empty "a,b")).run {}).result.map elements = .ok (some ["a", "b"]) := rfl
  have placedTwo : ((build (offering (.ok []) required)
      (.withContributors .empty "b,a")).run {}).result.map elements = .ok (some ["b", "a"]) := rfl
  have loads (name : String) (listed : name ∈ Property.names "a,b") : name ≠ "" ∧
      ∃ contributor, ((offering (.ok []) required).contributor name).result = .ok contributor := by
    refine ⟨?_, _, rfl⟩
    rintro rfl
    exact absurd listed (by decide)
  have alike := build_withContributors_perm (offering (.ok []) required) .empty "a,b" "b,a"
    (.swap "b" "a" []) loads {} {}
  cases one : ((build (offering (.ok []) required) (.withContributors .empty "a,b")).run {}).result
    with
  | error fault =>
      rw [one] at placedOne
      cases placedOne
  | ok factory =>
      cases two : ((build (offering (.ok []) required)
        (.withContributors .empty "b,a")).run {}).result with
      | error fault =>
          rw [two] at placedTwo
          cases placedTwo
      | ok twin =>
          rw [one] at placedOne alike
          rw [two] at placedTwo alike
          exact ⟨factory, twin, rfl, rfl, Except.ok.inj placedOne, Except.ok.inj placedTwo, alike.1,
            alike.2.2⟩

/-- A loader whose discovery ends with a repetition has it reported in both orders, even though
that constraint is not defined at all and another one is the only one defined twice. -/
theorem repetition_of_discovery :
    let repetition := Fault.duplicateDefinition ⟨"acme.Other"⟩ .preSupplied
    let loader := offering (.error repetition) contested
    Property.names "a,b" = ["a", "b"] ∧ Property.names "b,a" = ["b", "a"] ∧
      (∀ name, ∃ contributor, (loader.contributor name).result = .ok contributor) ∧
      ((build loader (.withContributors .empty "a,b")).run {}).result.map (fun _ => ()) =
        .error repetition ∧
      ((build loader (.withContributors .empty "b,a")).run {}).result.map (fun _ => ()) =
        .error repetition ∧
      ((Configuration.withContributors .empty "a,b").definitions loader).map
          (fun entry => entry.2.constraint) = [⟨"acme.Sku"⟩, ⟨"acme.Sku"⟩] := by
  refine ⟨rfl, rfl, fun name => ⟨_, rfl⟩, rfl, rfl, rfl⟩

end Factory

end BeanConstraints
