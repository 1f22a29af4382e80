/-
# Beans are found under their types

Beans come to a factory in two ways, and each source looks them up in a way of its own.
Mappings are asked one after the other for their first entry for a type. Documents are filed
by type while they are read, so one lookup finds what is scattered over all of them. Both
find every bean of the type, in the order in which the beans came, and both list exactly the
types for which they find something.

The first entry of a mapping is all there is, since a type gets one entry however often it is
returned to: no call on a mapping adds a second one. Reading stops at the first document that
cannot be understood, and the fault names it.
-/

import BeanConstraints.Proofs.Decision
import BeanConstraints.Proofs.Placements

namespace BeanConstraints

namespace Mapping

/-- Mappings as calls make them. A bean type may be returned to at any time, be it without placing
anything. -/
inductive Made : Mapping → Prop
  | new (id : MappingId) (origin : Origin) : Made ⟨id, origin, [], []⟩
  | define {mapping : Mapping} (made : Made mapping) (definition : Definition) :
      Made (mapping.define definition)
  | place {mapping : Mapping} (made : Made mapping) (typeName : String)
      (placements : List Placement) : Made (mapping.place typeName placements)
  | copy {mapping : Mapping} (made : Made mapping) (id : MappingId) : Made (mapping.copy id)

/-- Placing adds a name only if it is new. -/
theorem names_addTo (typeName : String) (placements : List Placement)
    (beans : List BeanPlacements) :
    (addTo typeName placements beans).map BeanPlacements.typeName =
      if typeName ∈ beans.map BeanPlacements.typeName then beans.map BeanPlacements.typeName
      else beans.map BeanPlacements.typeName ++ [typeName] := by
  induction beans with
  | nil => rfl
  | cons bean rest ih =>
      by_cases here : bean.typeName = typeName
      · simp [addTo, here]
      · have apart : typeName ≠ bean.typeName := fun same => here same.symm
        rw [addTo, if_neg here, List.map_cons, ih]
        simp only [List.map_cons, List.mem_cons, apart, false_or]
        split <;> rfl

/-- However calls make a mapping, it has one entry for a type at most. -/
theorem Made.single {mapping : Mapping} (made : mapping.Made) :
    (mapping.beans.map BeanPlacements.typeName).Nodup := by
  induction made with
  | new id origin => exact List.nodup_nil
  | define _ definition ih => exact ih
  | copy _ id ih => exact ih
  | @place mapping _ typeName placements ih =>
      rw [Mapping.place, names_addTo]
      split
      · exact ih
      · rename_i new
        exact List.nodup_append.mpr ⟨ih, List.nodup_singleton _, fun name listed other same =>
          fun equal => new (List.mem_singleton.mp same ▸ equal ▸ listed)⟩

/-- If a type has one entry at most, its first entry is all there is. -/
theorem toList_find? {beans : List BeanPlacements}
    (single : (beans.map BeanPlacements.typeName).Nodup) (typeName : String) :
    (beans.find? fun bean => bean.typeName == typeName).toList =
      beans.filter fun bean => bean.typeName == typeName := by
  induction beans with
  | nil => rfl
  | cons bean rest ih =>
      obtain ⟨alone, others⟩ := List.nodup_cons.mp single
      by_cases here : bean.typeName = typeName
      · have nothing : rest.filter (fun other => other.typeName == typeName) = [] := by
          refine List.filter_eq_nil_iff.mpr fun other listed same => alone ?_
          rw [here, ← beq_iff_eq.mp same]
          exact List.mem_map_of_mem listed
        simp [here, nothing]
      · simpa [here] using ih others

end Mapping

namespace Metadata

namespace Source

section

variable {name : String} {names : List String}

theorem eraseReps_cons_cons (first second : String) (rest : List String) :
    (first :: second :: rest).eraseReps =
      if first = second then (first :: rest).eraseReps
      else first :: (second :: rest).eraseReps := by
  have collected (same : String → String → Bool) (here : String) (rest behind : List String) :
      List.eraseRepsBy.loop same here rest behind =
        behind.reverse ++ List.eraseRepsBy.loop same here rest [] := by
    induction rest generalizing here behind with
    | nil => simp [List.eraseRepsBy.loop]
    | cons next rest ih =>
        simp only [List.eraseRepsBy.loop]
        split
        · exact ih here behind
        · rw [ih next (here :: behind), ih next [here]]
          simp
  simp only [List.eraseReps, List.eraseRepsBy, List.eraseRepsBy.loop]
  by_cases same : first = second
  · rw [if_pos same, beq_iff_eq.mpr same]
  · rw [if_neg same, beq_eq_false_iff_ne.mpr same]
    exact collected _ _ _ _

/-- Dropping repeated neighbours loses no name. -/
theorem mem_eraseReps : name ∈ names.eraseReps ↔ name ∈ names := by
  cases names with
  | nil => exact Iff.rfl
  | cons first rest =>
      induction rest generalizing first with
      | nil => exact Iff.rfl
      | cons second rest ih =>
          rw [eraseReps_cons_cons]
          by_cases same : first = second
          · rw [if_pos same, ih, List.mem_cons, List.mem_cons, List.mem_cons, same, or_self_left]
          · rw [if_neg same, List.mem_cons, ih, ← List.mem_cons]

/-- In sorted names, equal ones are neighbours, so what is left rises. -/
theorem rising_eraseReps
    (sorted : names.Pairwise fun first second => (compare first second).isLE = true) :
    names.eraseReps.Pairwise (· < ·) := by
  cases names with
  | nil => exact .nil
  | cons first rest =>
      induction rest generalizing first with
      | nil => exact List.pairwise_singleton _ _
      | cons second rest ih =>
          rw [eraseReps_cons_cons]
          obtain ⟨least, later⟩ := List.pairwise_cons.mp sorted
          by_cases same : first = second
          · rw [if_pos same, same]
            exact ih second later
          · rw [if_neg same]
            refine List.pairwise_cons.mpr ⟨fun other listed => ?_, ih second later⟩
            have next : compare first second = .lt := by
              have ordered := least second (.head _)
              cases found : compare first second with
              | lt => rfl
              | eq => exact absurd (Std.LawfulEqCmp.eq_of_compare found) same
              | gt =>
                  rw [found] at ordered
                  cases ordered
            have onward : (compare second other).isLE = true := by
              rcases List.mem_cons.mp (mem_eraseReps.mp listed) with rfl | listed
              · exact Std.ReflCmp.isLE_rfl
              · exact (List.pairwise_cons.mp later).1 other listed
            have below : compare first other = .lt := Std.TransCmp.lt_of_lt_of_isLE next onward
            exact compareOfLessAndEq_eq_lt.mp below

theorem mem_rising : name ∈ rising names ↔ name ∈ names :=
  mem_eraseReps.trans (List.mergeSort_perm _ _).mem_iff

theorem pairwise_rising : (rising names).Pairwise (· < ·) :=
  rising_eraseReps (pairwise_mergeSort_compare names)

end

/-- A source finds every bean under its type, in the order in which the beans came, and lists by
rising names exactly the types for which it finds one. -/
structure Indexes (source : Source) (beans : List BeanPlacements) : Prop where
  found : ∀ typeName,
    source.beansOf typeName = beans.filter fun bean => bean.typeName == typeName
  rising : source.types.Pairwise (· < ·)
  listed : ∀ typeName, typeName ∈ source.types ↔ source.beansOf typeName ≠ []

/-- There are beans of a type exactly if the type is among their types. -/
theorem filter_ne_nil_iff {beans : List BeanPlacements} {typeName : String} :
    beans.filter (fun bean => bean.typeName == typeName) ≠ [] ↔
      typeName ∈ beans.map BeanPlacements.typeName := by
  simp [List.filter_eq_nil_iff]

/-- Mappings that calls have made lose no entry. -/
theorem indexes_mappings {sealed : SealedMappings}
    (made : ∀ mapping ∈ sealed.mappings, mapping.Made) :
    (mappings sealed).Indexes (sealed.mappings.flatMap Mapping.beans) := by
  have found (typeName : String) : (mappings sealed).beansOf typeName =
      (sealed.mappings.flatMap Mapping.beans).filter fun bean => bean.typeName == typeName := by
    rw [beansOf, List.filter_flatMap, List.filterMap_eq_flatMap_toList]
    exact List.flatMap_congr fun mapping listed =>
      Mapping.toList_find? (made mapping listed).single typeName
  refine ⟨found, pairwise_rising, fun typeName => ?_⟩
  rw [found, filter_ne_nil_iff, types, mem_rising, List.map_flatMap]

end Source

namespace Documents

/-- No type is filed without beans. -/
def Filled (documents : Documents) : Prop :=
  ∀ typeName, documents.beans.get? typeName ≠ some []

theorem Filled.file {documents : Documents} (filled : documents.Filled) (bean : BeanPlacements) :
    (documents.file bean).Filled := by
  intro typeName
  by_cases same : typeName = bean.typeName
  · rw [same, Documents.file, Table.get?_insert_self]
    simp
  · rw [Documents.file, Table.get?_insert_of_ne _ _ same]
    exact filled typeName

theorem filled_read (read : List (List BeanPlacements)) : (read.foldl add empty).Filled := by
  have filed (beans : List BeanPlacements) {documents : Documents} (filled : documents.Filled) :
      (beans.foldl file documents).Filled := by
    induction beans generalizing documents with
    | nil => exact filled
    | cons bean rest ih => exact ih (filled.file bean)
  have added (read : List (List BeanPlacements)) {documents : Documents}
      (filled : documents.Filled) : (read.foldl add documents).Filled := by
    induction read generalizing documents with
    | nil => exact filled
    | cons beans rest ih => exact ih (filed beans filled)
  exact added read fun _ => nofun

/-- Documents that were read lose no bean. -/
theorem indexes_documents (read : List (List BeanPlacements)) :
    (Source.documents (read.foldl add empty)).Indexes read.flatten := by
  let documents := read.foldl add empty
  refine ⟨fun typeName => ?_, ?_, fun typeName => ?_⟩
  · exact (beansOf_foldl_add empty read typeName).trans (List.nil_append _)
  · exact List.pairwise_map.mpr (documents.beans.rising.imp compareOfLessAndEq_eq_lt.mp)
  · change typeName ∈ documents.beans.keys ↔ documents.beansOf typeName ≠ []
    rw [Table.mem_keys, Table.contains, beansOf]
    cases filed : documents.beans.get? typeName with
    | none => simp
    | some beans =>
        have some_bean : beans ≠ [] := by
          rintro rfl
          exact filled_read read typeName filed
        simp [some_bean]

/-- Reading is filing what all documents say, one after the other, up to the first that says
nothing. -/
theorem result_read (parser : MappingParser) (streams : List MappingStream)
    (counters : Counters) :
    ((Documents.read parser streams).run counters).result =
      (streams.mapM (parsed parser)).map fun read => read.foldl add empty := by
  have yields := yields_readFrom parser empty streams counters
  rwa [Except.map_id] at yields

theorem mapM_parsed {parser : MappingParser} {streams : List MappingStream}
    {read : List (List BeanPlacements)} (understood : streams.map parser = read.map .ok) :
    streams.mapM (parsed parser) = .ok read := by
  induction streams generalizing read with
  | nil =>
      rw [List.map_nil, eq_comm, List.map_eq_nil_iff] at understood
      rw [understood]
      rfl
  | cons stream rest ih =>
      obtain ⟨beans, others, rfl, here, later⟩ := List.map_eq_cons_iff.mp understood.symm
      rw [List.mapM_cons, ih later.symm, parsed, ← here]
      rfl

/-- A stream is the first of several that the parser does not understand, and the fault names
it. -/
def Blames (parser : MappingParser) (streams : List MappingStream) (fault : Fault) : Prop :=
  ∃ before stream after reasons, streams = before ++ stream :: after ∧
    (∀ earlier ∈ before, ∃ beans, parser earlier = .ok beans) ∧
    parser stream = .error reasons ∧
    fault = .mappingParse stream.name (": ".intercalate reasons)

/-- Reading fails with the fault that names the first stream that is not understood. -/
theorem result_read_eq_error_iff {parser : MappingParser} {streams : List MappingStream}
    {counters : Counters} {fault : Fault} :
    ((Documents.read parser streams).run counters).result = .error fault ↔
      Blames parser streams fault := by
  have failed (stream : MappingStream) (fault : Fault) :
      Fault.of? (parsed parser stream) = some fault ↔
        ∃ reasons, parser stream = .error reasons ∧
          fault = .mappingParse stream.name (": ".intercalate reasons) := by
    rw [Configuration.of?_parsed, Configuration.streamFault]
    cases parser stream <;> simp [eq_comm]
  have understood (stream : MappingStream) :
      Fault.of? (parsed parser stream) = none ↔ ∃ beans, parser stream = .ok beans := by
    rw [Configuration.of?_parsed, Configuration.streamFault]
    cases parser stream <;> simp
  rw [result_read, ← Fault.of?_eq_some_iff, Fault.of?_map, Fault.of?_mapM,
    List.findSome?_eq_some_iff, Blames]
  simp only [failed, understood]
  refine ⟨?_, ?_⟩
  · rintro ⟨before, stream, after, whole, ⟨reasons, here, rfl⟩, earlier⟩
    exact ⟨before, stream, after, reasons, whole, earlier, here, rfl⟩
  · rintro ⟨before, stream, after, reasons, whole, earlier, here, rfl⟩
    exact ⟨before, stream, after, whole, ⟨reasons, here, rfl⟩, earlier⟩

end Documents

/-- No bean is lost on the way to a source. A mapping has one entry for a type at most, whatever
calls made it, so asking sealed mappings one after the other for their entries gives every entry for
the type. Documents that are all understood are read, and asking them gives every bean for the type,
document by document and repetitions included. Either source lists the types for which it has beans,
rising by code points. Reading fails exactly if a document is not understood, and then with the
fault that names the first of them, whatever the others say. -/
theorem sources_index_beans :
    (∀ mapping : Mapping, mapping.Made →
        (mapping.beans.map BeanPlacements.typeName).Nodup) ∧
      (∀ sealed : SealedMappings, (∀ mapping ∈ sealed.mappings, mapping.Made) →
        (Source.mappings sealed).Indexes (sealed.mappings.flatMap Mapping.beans)) ∧
      (∀ (parser : MappingParser) (read : List (List BeanPlacements)) streams counters,
        streams.map parser = read.map .ok →
        ∃ documents, ((Documents.read parser streams).run counters).result = .ok documents ∧
          (Source.documents documents).Indexes read.flatten) ∧
      ∀ parser streams counters fault,
        ((Documents.read parser streams).run counters).result = .error fault ↔
          Documents.Blames parser streams fault := by
  refine ⟨fun mapping made => made.single, fun sealed => Source.indexes_mappings, ?_,
    fun _ _ _ _ => Documents.result_read_eq_error_iff⟩
  intro parser read streams counters understood
  refine ⟨read.foldl .add .empty, ?_, Documents.indexes_documents read⟩
  rw [Documents.result_read, Documents.mapM_parsed understood]
  rfl

/-- Orders are returned to after items in a mapping, and orders are scattered over two documents;
between these there may be one that is not understood. -/
theorem sources_index_scattered_orders :
    let order (field : String) : BeanPlacements := ⟨"Order", [⟨.field field, ⟨"NotNull"⟩⟩]⟩
    let item : BeanPlacements := ⟨"Item", []⟩
    let mapping := (((Mapping.mk 1 .preSupplied [] []).place "Order" (order "id").placements).place
      "Item" []).place "Order" (order "date").placements
    let parser : MappingParser := fun stream =>
      if stream.content = "" then .error ["no content", "line 1"]
      else .ok [order stream.name, item, order "total"]
    let good : List MappingStream := [⟨"first.xml", "ok"⟩, ⟨"second.xml", "ok"⟩]
    (Source.mappings ⟨[mapping]⟩).types = ["Item", "Order"] ∧
      (Source.mappings ⟨[mapping]⟩).beansOf "Order" =
        [⟨"Order", (order "id").placements ++ (order "date").placements⟩] ∧
      (∃ documents, ((Documents.read parser good).run {}).result = .ok documents ∧
        (Source.documents documents).beansOf "Order" =
          [order "first.xml", order "total", order "second.xml", order "total"]) ∧
      ((Documents.read parser (good ++ [⟨"bad.xml", ""⟩, ⟨"worse.xml", ""⟩])).run {}).result.isOk =
        false := by
  intro order item mapping parser good
  obtain ⟨_, mappings, documents, faults⟩ := sources_index_beans
  have made : mapping.Made := .place (.place (.place (.new 1 .preSupplied) _ _) _ _) _ _
  have indexed := mappings ⟨[mapping]⟩ fun _ listed => List.mem_singleton.mp listed ▸ made
  let parsed := good.map fun stream => [order stream.name, item, order "total"]
  obtain ⟨filed, read, found, _, _⟩ := documents parser parsed good {} rfl
  have types : (Source.mappings ⟨[mapping]⟩).types = ["Item", "Order"] := by
    refine List.Pairwise.eq_of_mem_iff (r := (· < ·)) indexed.rising (by decide) fun name => ?_
    rw [indexed.listed, indexed.found, Source.filter_ne_nil_iff]
    exact List.mem_pair.trans (or_comm.trans List.mem_pair.symm)
  refine ⟨types, (indexed.found "Order").trans rfl,
    ⟨filed, read, (found "Order").trans rfl⟩, ?_⟩
  have blamed := (faults parser (good ++ [⟨"bad.xml", ""⟩, ⟨"worse.xml", ""⟩]) {} _).mpr
    ⟨good, ⟨"bad.xml", ""⟩, [⟨"worse.xml", ""⟩], ["no content", "line 1"], rfl,
      by simp [good, parser], rfl, rfl⟩
  rw [blamed]
  rfl

end Metadata

end BeanConstraints
