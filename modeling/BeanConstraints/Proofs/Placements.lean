/-
# Every placement counts once

Placements reach the metadata of a bean type by several ways: the beans of all
mapping documents are filed by type, and every mapping gathers what was placed on
it under one entry for each type, however often the type was returned to. Nothing
is lost on the way, nothing is added, and nothing changes its place: the metadata
lists what the documents say in their order, and then what was placed on the
mappings in theirs.
-/

import BeanConstraints.Proofs.Definitions
import BeanConstraints.Proofs.Freshness

namespace BeanConstraints

/-- What a list of beans places on the beans of one type. -/
def placedOn (typeName : String) (beans : List BeanPlacements) : List Placement :=
  (beans.filter fun bean => bean.typeName == typeName).flatMap BeanPlacements.placements

theorem placedOn_cons (typeName : String) (bean : BeanPlacements) (rest : List BeanPlacements) :
    placedOn typeName (bean :: rest) =
      (if bean.typeName = typeName then bean.placements else []) ++ placedOn typeName rest := by
  by_cases same : bean.typeName = typeName <;> simp [placedOn, same]

namespace Mapping

/-- The entries of a mapping on which constraints were placed bean by bean. A bean type may be
returned to any number of times. -/
def written (calls : List BeanPlacements) : List BeanPlacements :=
  calls.foldl (fun beans call => addTo call.typeName call.placements beans) []

/-- The placements of the entry for a bean type, none if there is no entry. -/
def entry (typeName : String) (beans : List BeanPlacements) : List Placement :=
  ((beans.find? fun bean => bean.typeName == typeName).map BeanPlacements.placements).getD []

/-- Placements go to the end of the entry for their type and leave the other entries alone. -/
theorem entry_addTo (typeName name : String) (placements : List Placement)
    (beans : List BeanPlacements) :
    entry typeName (addTo name placements beans) =
      entry typeName beans ++ if name = typeName then placements else [] := by
  induction beans with
  | nil => by_cases same : name = typeName <;> simp [addTo, entry, same]
  | cons bean rest ih =>
      by_cases here : bean.typeName = name
      · by_cases same : name = typeName <;> simp [addTo, entry, here, same]
      · by_cases found : bean.typeName = typeName
        · have apart : typeName ≠ name := fun same => here (found.trans same)
          simp [addTo, entry, found, apart, apart.symm]
        · simpa [addTo, entry, here, found] using ih

/-- The entry for a type holds what all calls for the type have placed, in their order. -/
theorem entry_written (typeName : String) (calls : List BeanPlacements) :
    entry typeName (written calls) = placedOn typeName calls := by
  have from_any (beans : List BeanPlacements) :
      entry typeName
          (calls.foldl (fun beans call => addTo call.typeName call.placements beans) beans) =
        entry typeName beans ++ placedOn typeName calls := by
    induction calls generalizing beans with
    | nil => simp [placedOn]
    | cons call rest ih =>
        rw [List.foldl_cons, ih, entry_addTo, placedOn_cons, List.append_assoc]
  exact from_any []

/-- What a mapping with entries gives for a bean type. -/
theorem flatMap_bean? (mapping : Mapping) (typeName : String) :
    (mapping.bean? typeName).toList.flatMap BeanPlacements.placements =
      entry typeName mapping.beans := by
  unfold bean? entry
  cases mapping.beans.find? fun bean => bean.typeName == typeName <;> simp

/-- Filling a new mapping writes the beans of the draft. -/
theorem beans_fill (id : MappingId) (origin : Origin) (draft : MappingDraft) :
    (fill ⟨id, origin, [], []⟩ draft).beans = written draft.beans := by
  have defined := view_foldl Mapping.beans define (fun _ _ => rfl) draft.definitions
    ⟨id, origin, [], []⟩
  have placed (calls : List BeanPlacements) (mapping : Mapping) :
      (calls.foldl (fun mapping bean => mapping.place bean.typeName bean.placements)
        mapping).beans =
        calls.foldl (fun beans call => addTo call.typeName call.placements beans)
          mapping.beans := by
    induction calls generalizing mapping with
    | nil => rfl
    | cons call rest ih => rw [List.foldl_cons, ih]; rfl
  rw [fill, placed, defined, written]

/-- No mapping is made up by keeping the first of each identity. -/
theorem distinct_subset (mappings : List Mapping) : distinct mappings ⊆ mappings := by
  induction mappings with
  | nil => exact List.nil_subset _
  | cons mapping rest ih =>
      exact List.cons_subset_cons _ (List.Subset.trans (List.filter_subset_self _) ih)

/-- Whether the entries of the mapping come from calls that placed constraints bean by bean. -/
def WrittenBy (mapping : Mapping) (calls : List BeanPlacements) : Prop :=
  mapping.beans = written calls

end Mapping

namespace Metadata

/-- A constraint as it was placed, with the kind of the source that placed it. -/
def MetaConstraint.placed (held : MetaConstraint) : String × Placement :=
  (held.origin, ⟨held.element, held.constraint⟩)

/-- Whether a provider has names for the element. Only parameters need them. -/
def Named (naming : ParameterNaming) (element : Element) : Prop :=
  ∀ method index arity, element = .parameter method index arity →
    (naming.names method arity).isSome = true

section

variable (naming : ParameterNaming) (registry : Registry) (typeName : String)

theorem isSome_resolved (placed : String × Placement) :
    (resolved naming registry typeName placed).isSome = true ↔
      Named naming placed.2.element := by
  obtain ⟨origin, element, constraint⟩ := placed
  cases element <;> simp [resolved, resolve, elementName, Named, ParameterNaming.ask]

/-- There is metadata exactly if every element can be named. -/
theorem isSome_mapM_resolved (placements : List (String × Placement)) :
    (placements.mapM (resolved naming registry typeName)).isSome = true ↔
      ∀ placed ∈ placements, Named naming placed.2.element := by
  induction placements with
  | nil => simp
  | cons placed rest ih =>
      rw [List.mapM_cons, List.forall_mem_cons, ← ih, ← isSome_resolved naming registry typeName]
      cases resolved naming registry typeName placed with
      | none => simp
      | some held => cases rest.mapM (resolved naming registry typeName) <;> simp

variable {naming registry typeName}

/-- What a placement comes to is the placement with the checkers of its constraint. -/
theorem placed_of_resolved {placed : String × Placement} {held : MetaConstraint}
    (found : resolved naming registry typeName placed = some held) :
    held.placed = placed ∧ held.checkers = registry.checkersOf held.constraint := by
  obtain ⟨name, _, rfl⟩ := Option.map_eq_some_iff.mp found
  exact ⟨rfl, rfl⟩

/-- Metadata consists of the placements, one by one, with the checkers of their constraints. -/
theorem placed_of_mapM_resolved {placements : List (String × Placement)}
    {constraints : List MetaConstraint}
    (all : placements.mapM (resolved naming registry typeName) = some constraints) :
    constraints.map MetaConstraint.placed = placements ∧
      ∀ held ∈ constraints, held.checkers = registry.checkersOf held.constraint := by
  induction placements generalizing constraints with
  | nil =>
      cases all
      simp
  | cons placed rest ih =>
      rw [List.mapM_cons] at all
      obtain ⟨held, found, all⟩ := Option.bind_eq_some_iff.mp all
      obtain ⟨others, later, all⟩ := Option.bind_eq_some_iff.mp all
      cases all
      obtain ⟨same, checked⟩ := ih later
      obtain ⟨here, active⟩ := placed_of_resolved found
      exact ⟨by rw [List.map_cons, here, same], List.forall_mem_cons.mpr ⟨active, checked⟩⟩

end

namespace Documents

/-- The beans of a type are those that were read for it, in the order of reading. -/
theorem beansOf_foldl_add (documents : Documents) (read : List (List BeanPlacements))
    (typeName : String) :
    (read.foldl add documents).beansOf typeName =
      documents.beansOf typeName ++
        read.flatten.filter fun bean => bean.typeName == typeName := by
  have filed (beans : List BeanPlacements) (documents : Documents) :
      (beans.foldl file documents).beansOf typeName =
        documents.beansOf typeName ++ beans.filter fun bean => bean.typeName == typeName := by
    induction beans generalizing documents with
    | nil => simp
    | cons bean rest ih =>
        rw [List.foldl_cons, ih, beansOf_file]
        by_cases same : bean.typeName = typeName <;> simp [same]
  induction read generalizing documents with
  | nil => simp
  | cons beans rest ih =>
      have one : (documents.add beans).beansOf typeName =
          (beans.foldl file documents).beansOf typeName := rfl
      rw [List.foldl_cons, ih, one, filed, List.flatten_cons, List.filter_append, List.append_assoc]

end Documents

/-- What sources place on a bean type: what was read for it, and then the entries of the mappings
for it. -/
theorem placementsOn_sourcesOf (documents : Option Documents) (mappings : List Mapping)
    (typeName : String) :
    placementsOn (Factory.sourcesOf documents ⟨mappings⟩) typeName =
      ((documents.toList.flatMap fun read => read.beansOf typeName).flatMap
          BeanPlacements.placements).map (("xml", ·)) ++
        (mappings.flatMap fun mapping => Mapping.entry typeName mapping.beans).map
          (("programmatic", ·)) := by
  have gathered : (mappings.filterMap fun mapping => mapping.bean? typeName).flatMap
      BeanPlacements.placements =
        mappings.flatMap fun mapping => Mapping.entry typeName mapping.beans := by
    induction mappings with
    | nil => rfl
    | cons mapping rest ih =>
        rw [List.flatMap_cons, ← ih, ← Mapping.flatMap_bean?, List.filterMap_cons]
        cases mapping.bean? typeName <;> simp
  have read : placementsOn (documents.toList.map .documents) typeName =
      ((documents.toList.flatMap fun read => read.beansOf typeName).flatMap
        BeanPlacements.placements).map (("xml", ·)) := by
    cases documents with
    | none => rfl
    | some filed => simp [placementsOn, Source.beansOf, Source.kind, List.map_flatMap]
  have placed : placementsOn (if mappings.isEmpty then [] else [.mappings ⟨mappings⟩]) typeName =
      (mappings.flatMap fun mapping => Mapping.entry typeName mapping.beans).map
        (("programmatic", ·)) := by
    rw [← gathered]
    cases mappings with
    | nil => rfl
    | cons mapping rest => simp [placementsOn, Source.beansOf, Source.kind, List.map_flatMap]
  rw [← read, ← placed]
  exact List.flatMap_append

end Metadata

namespace Configuration

/-- What the mapping documents of a configuration say, document after document. A document that
cannot be understood says nothing. -/
def parsedBeans (configuration : Configuration) : List BeanPlacements :=
  match configuration.parser with
  | some parser => configuration.streams.flatMap fun stream => (parser stream).toOption.getD []
  | none => []

theorem flatten_of_mapM_parsed {parser : MappingParser} {streams : List MappingStream}
    {read : List (List BeanPlacements)}
    (understood : streams.mapM (Metadata.Documents.parsed parser) = .ok read) :
    read.flatten = streams.flatMap fun stream => (parser stream).toOption.getD [] := by
  induction streams generalizing read with
  | nil =>
      cases understood
      rfl
  | cons stream rest ih =>
      rw [List.mapM_cons] at understood
      obtain ⟨beans, first, understood⟩ := ok_of_bind understood
      obtain ⟨others, later, understood⟩ := ok_of_bind understood
      cases understood
      have said : parser stream = .ok beans := by
        unfold Metadata.Documents.parsed at first
        cases answered : parser stream with
        | error reasons =>
            rw [answered] at first
            cases first
        | ok found =>
            rw [answered] at first
            cases first
            rfl
      rw [List.flatten_cons, List.flatMap_cons, ih later, said]
      rfl

/-- What was read for a bean type is what the documents say about it. -/
theorem beansOf_documents {configuration : Configuration}
    {documents : Option Metadata.Documents} (read : configuration.documents = .ok documents)
    (typeName : String) :
    (documents.toList.flatMap fun read => read.beansOf typeName) =
      configuration.parsedBeans.filter fun bean => bean.typeName == typeName := by
  unfold Configuration.documents at read
  unfold parsedBeans
  split at read
  · rename_i none
    cases read
    cases configuration.parser <;> simp [none]
  · cases read
  · rename_i stream rest parser streams given
    obtain ⟨beans, understood, rfl⟩ := ok_of_map read
    rw [given, streams]
    dsimp only
    rw [← flatten_of_mapM_parsed understood]
    have filed := Metadata.Documents.beansOf_foldl_add .empty beans typeName
    simpa [Metadata.Documents.beansOf, Metadata.Documents.empty] using filed

end Configuration

namespace Factory

variable {shared : Component.Loader} {configuration : Configuration} {counters : Counters}
  {factory : Factory}

/-- What a factory has of documents and mappings, identities aside: the documents of its
configuration and the contributions of all sources. -/
theorem parts_of_built
    (built : ((build shared configuration).run counters).result = .ok factory) :
    ∃ documents contents, configuration.documents = .ok documents ∧
      Bootstrap.contributions (configuration.loader.getD shared) configuration.mappings
        configuration.contributorNames = .ok contents ∧
      factory.sources.map Metadata.Source.anonymous = sourcesOf documents ⟨contents⟩ ∧
      factory.mappings.mappings.map Mapping.anonymous = contents := by
  obtain ⟨documents, contents, read, collected, _, _, _, parts⟩ :=
    outlined_cases (outlined_of_built built)
  refine ⟨documents, contents, read, collected, congrArg Outline.sources parts, ?_⟩
  exact congrArg (fun outline => outline.mappings.mappings) parts

/-- The sources of a factory place what the documents of its configuration say, and then what its
mappings have entries for. -/
theorem placementsOn_of_built
    (built : ((build shared configuration).run counters).result = .ok factory) (typeName : String) :
    Metadata.placementsOn factory.sources typeName =
      (placedOn typeName configuration.parsedBeans).map (("xml", ·)) ++
        (factory.mappings.mappings.flatMap fun mapping =>
          Mapping.entry typeName mapping.beans).map (("programmatic", ·)) := by
  obtain ⟨documents, contents, read, _, sources, mappings⟩ := parts_of_built built
  rw [← Metadata.placementsOn_anonymous, sources, ← mappings,
    Metadata.placementsOn_sourcesOf documents _ typeName, List.flatMap_map, placedOn,
    ← Configuration.beansOf_documents read]
  rfl

/-- If placements were put on the mappings of a configuration by calls, so they were on all
mappings of the factory. -/
theorem exists_writtenBy_of_built
    (built : ((build shared configuration).run counters).result = .ok factory)
    (supplied : ∀ mapping ∈ configuration.mappings, ∃ calls, mapping.WrittenBy calls) :
    ∀ mapping ∈ factory.mappings.mappings, ∃ calls, mapping.WrittenBy calls := by
  obtain ⟨documents, contents, _, collected, _, mappings⟩ := parts_of_built built
  unfold Bootstrap.contributions at collected
  obtain ⟨discovered, _, collected⟩ := ok_of_bind collected
  obtain ⟨named, _, collected⟩ := ok_of_bind collected
  have whole : _ = contents := Except.ok.inj collected
  have contributed (origin : String → Origin)
      (contributors : List (String × Component.Contributor)) :
      ∀ mapping ∈ Bootstrap.added origin contributors, ∃ calls, mapping.WrittenBy calls := by
    intro mapping listed
    obtain ⟨entry, _, listed⟩ := List.mem_flatMap.mp listed
    obtain ⟨draft, _, rfl⟩ := List.mem_map.mp listed
    exact ⟨draft.beans, Mapping.beans_fill 0 (origin entry.1) draft⟩
  intro mapping listed
  have there : mapping.anonymous ∈ contents := mappings ▸ List.mem_map_of_mem listed
  rw [← whole, List.mem_append, List.mem_append] at there
  have written : ∃ calls, mapping.anonymous.WrittenBy calls := by
    rcases there with (handedOver | offered) | asked
    · obtain ⟨original, kept, same⟩ := List.mem_map.mp handedOver
      obtain ⟨calls, by_calls⟩ := supplied original (Mapping.distinct_subset _ kept)
      exact ⟨calls, same ▸ by_calls⟩
    · exact contributed _ _ _ offered
    · exact contributed _ _ _ asked
  exact written

end Factory

namespace Session

/-- In every run on a factory that was built, whatever validators name parameters by, the metadata
of a bean type holds what the mapping documents say about the type, document by document and bean
by bean, and then what was placed for the type on every mapping of the factory, mapping by mapping
and call by call. Everything is there once, in this order and on its own element, and nothing
else; every constraint has the checkers that the registry has for it at that moment. Only if a
provider has no names for a method that a constraint was placed on, there is no metadata. -/
theorem placed_answer_of_built {shared : Component.Loader} {configuration : Configuration}
    {counters : Counters} {factory : Factory}
    (built : ((Factory.build shared configuration).run counters).result = .ok factory)
    (supplied : ∀ mapping ∈ configuration.mappings, ∃ calls, mapping.WrittenBy calls)
    (requests : List Request)
    (coherent : Instance.Coherent
      (factory.settings.naming :: requests.flatMap Request.namings)) :
    let session := (start factory).run requests
    (∀ mapping ∈ factory.mappings.mappings, ∃ calls, mapping.WrittenBy calls) ∧
      ∀ calls : Mapping → List BeanPlacements,
        (∀ mapping ∈ factory.mappings.mappings, mapping.WrittenBy (calls mapping)) →
        ∀ handed ∈ session.handed, ∀ typeName,
          let read := placedOn typeName configuration.parsedBeans
          let put := factory.mappings.mappings.flatMap fun mapping =>
            placedOn typeName (calls mapping)
          ((session.answer handed.validator typeName).isSome = true ↔
            ∀ placement ∈ read ++ put,
              Metadata.Named handed.validator.settings.naming.role placement.element) ∧
          ∀ bean, session.answer handed.validator typeName = some bean →
            bean.typeName = typeName ∧
            bean.constraints.map Metadata.MetaConstraint.placed =
              read.map (("xml", ·)) ++ put.map (("programmatic", ·)) ∧
            ∀ held ∈ bean.constraints,
              held.checkers = session.factory.registry.checkersOf held.constraint := by
  intro session
  refine ⟨Factory.exists_writtenBy_of_built built supplied, ?_⟩
  intro calls written handed given typeName read put
  have current := current_run (Factory.store_of_built built) (List.Subset.refl
    (factory.settings.naming :: requests.flatMap Request.namings))
  have entries : (factory.mappings.mappings.flatMap fun mapping =>
      Mapping.entry typeName mapping.beans) = put := by
    refine List.flatMap_congr fun mapping listed => ?_
    rw [written mapping listed, Mapping.entry_written]
  have placements : Metadata.placementsOn session.factory.sources typeName =
      read.map (("xml", ·)) ++ put.map (("programmatic", ·)) := by
    rw [current.sources, Factory.placementsOn_of_built built, entries]
  have answered : session.answer handed.validator typeName =
      ((read.map (("xml", ·)) ++ put.map (("programmatic", ·))).mapM (Metadata.resolved
        handed.validator.settings.naming.role session.factory.registry typeName)).map
        (Metadata.Bean.mk typeName) := by
    rw [current.answer coherent given, ← placements]
    exact Metadata.build_result _ _ _ _
  refine ⟨?_, ?_⟩
  · rw [answered, Option.isSome_map, Metadata.isSome_mapM_resolved]
    simp only [List.forall_mem_append, List.forall_mem_map]
  · intro bean said
    rw [answered] at said
    obtain ⟨constraints, all, rfl⟩ := Option.map_eq_some_iff.mp said
    obtain ⟨placed, checked⟩ := Metadata.placed_of_mapM_resolved all
    exact ⟨rfl, placed, checked⟩

/-- A constraint that must hold on a field. -/
def required (field : String) : Placement :=
  ⟨.field field, ⟨"constraints.NotNull"⟩⟩

/-- What is called on a mapping, with orders returned to after items. -/
def orderCalls : List BeanPlacements :=
  [⟨"Order", [required "id"]⟩, ⟨"Item", [required "name"]⟩, ⟨"Order", [required "date"]⟩]

/-- Two documents and two mappings, one of them contributed, and all of them place something on
orders. -/
def orderSources : Configuration where
  streams := [⟨"orders.xml", ""⟩, ⟨"more.xml", ""⟩]
  parser := some fun stream =>
    .ok [⟨"Order", [required stream.name]⟩, ⟨"Item", []⟩, ⟨"Order", [required "total"]⟩]
  loader := some (Component.Registry.empty.registerContributor "shop"
    ⟨"Shop", .ok ⟨"Shop", [⟨[], orderCalls⟩]⟩⟩ true).loader
  mappings := [⟨7, .preSupplied, [], [⟨"Order", [required "buyer"]⟩]⟩]

/-- The documents come before the mappings, and what is said on an order in several places is all
there. -/
theorem placed_answer_of_two_documents : ∃ factory : Factory,
    ((Factory.build Component.Registry.shared.loader orderSources).run {}).result = .ok factory ∧
      let session := (start factory).run [.validator, .bean 0 "Order"]
      ∀ handed ∈ session.handed, ∃ bean,
        session.answer handed.validator "Order" = some bean ∧
        bean.constraints.map Metadata.MetaConstraint.placed =
          ["orders.xml", "total", "more.xml", "total"].map (fun field => ("xml", required field)) ++
            ["buyer", "id", "date"].map fun field => ("programmatic", required field) := by
  have computed :
      ((Factory.build Component.Registry.shared.loader orderSources).run {}).result.map
        Factory.mappings = .ok ⟨[⟨7, .preSupplied, [], [⟨"Order", [required "buyer"]⟩]⟩,
          ⟨1, .discovered "shop", [],
            [⟨"Order", [required "id", required "date"]⟩, ⟨"Item", [required "name"]⟩]⟩]⟩ := rfl
  obtain ⟨factory, built, mappings⟩ := ok_of_map computed
  have supplied : ∀ mapping ∈ orderSources.mappings, ∃ calls, mapping.WrittenBy calls := by
    intro mapping listed
    rw [List.mem_singleton.mp listed]
    exact ⟨[⟨"Order", [required "buyer"]⟩], rfl⟩
  have coherent : Instance.Coherent [factory.settings.naming] := by
    intro first firstListed second secondListed _
    rw [List.mem_singleton.mp firstListed, List.mem_singleton.mp secondListed]
  let calls (mapping : Mapping) : List BeanPlacements :=
    if mapping.id = 1 then orderCalls else mapping.beans
  obtain ⟨_, placed⟩ := placed_answer_of_built built supplied [.validator, .bean 0 "Order"] coherent
  have written : ∀ mapping ∈ factory.mappings.mappings, mapping.WrittenBy (calls mapping) := by
    rw [mappings]
    simp only [List.forall_mem_cons]
    exact ⟨rfl, rfl, fun _ listed => by cases listed⟩
  refine ⟨factory, built, fun handed given => ?_⟩
  obtain ⟨some_iff, exactly⟩ := placed calls written handed given "Order"
  have put : (factory.mappings.mappings.flatMap fun mapping => placedOn "Order" (calls mapping)) =
      ["buyer", "id", "date"].map required := by
    rw [mappings]
    rfl
  have read : placedOn "Order" orderSources.parsedBeans =
      ["orders.xml", "total", "more.xml", "total"].map required := rfl
  rw [put, read] at some_iff exactly
  have fields : ∀ placement ∈ ["orders.xml", "total", "more.xml", "total"].map required ++
      ["buyer", "id", "date"].map required,
        Metadata.Named handed.validator.settings.naming.role placement.element := by
    simp [required, Metadata.Named]
  obtain ⟨bean, said⟩ := Option.isSome_iff_exists.mp (some_iff.mpr fields)
  exact ⟨bean, said, (exactly bean said).2.1⟩

end Session

end BeanConstraints
