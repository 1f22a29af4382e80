/-
# Collected mappings stand in blocks

The mappings that collecting ends with are those handed over and then a block for
each contributor: first the discovered ones, then the named ones, in the order in
which they contribute. A block holds what the drafts of its contributor say, under
the origin by which the contributor was found, and its length is what the builder of
the contribution has counted.

Identities are drawn from one counter while the blocks are added, so they rise along
all blocks as long as the counter does not start anew. The steps before this one say
what is collected apart from identities; here the runs themselves are followed, from
one set and one counter to the next.
-/

import BeanConstraints.Proofs.Attempts

namespace BeanConstraints

/-- Filling a mapping does not change its identity. -/
theorem Mapping.id_fill (mapping : Mapping) (draft : MappingDraft) :
    (mapping.fill draft).id = mapping.id := by
  have defined := view_foldl Mapping.id define (fun _ _ => rfl) draft.definitions mapping
  exact (view_foldl Mapping.id placeAll (fun _ _ => rfl) draft.beans _).trans defined

/-- A name that stands for a contributor is not empty, and the loader answers it. -/
theorem Component.Loader.of_named {loader : Loader} {name : String} {entry : String × Contributor}
    (stands : loader.named name = .ok entry) :
    ¬name.isEmpty = true ∧ entry.1 = name ∧ (loader.contributor name).result = .ok entry.2 := by
  unfold Component.Loader.named at stands
  split at stands
  · cases stands
  case _ filled =>
    obtain ⟨contributor, loaded, rfl⟩ := ok_of_map stands
    exact ⟨filled, rfl, loaded⟩

namespace Bootstrap

/-- The mappings that drafts turn into one after the other, with identities that count up. -/
def numbered (first : MappingId) (origin : Origin) : List MappingDraft → List Mapping
  | [] => []
  | draft :: rest => Mapping.fill ⟨first, origin, [], []⟩ draft :: numbered (first + 1) origin rest

/-- Somebody who adds mappings, with the origin that they get. -/
abbrev Giver := Origin × Component.Contributor

/-- Contributors with the origin that their names lead to. -/
def givers (origin : String → Origin) (entries : List (String × Component.Contributor)) :
    List Giver :=
  entries.map fun entry => (origin entry.1, entry.2)

/-- The identity that comes next when contributors have added their mappings. -/
def nextId (first : MappingId) (givers : List Giver) : MappingId :=
  givers.foldl (fun next giver => next + .ofNat giver.2.drafts.length) first

/-- The mappings of contributors, a block for each. -/
def blocks (first : MappingId) : List Giver → List (List Mapping)
  | [] => []
  | (origin, contributor) :: rest =>
      numbered first origin contributor.drafts ::
        blocks (first + .ofNat contributor.drafts.length) rest

section

variable (first : MappingId) (origin : Origin) (drafts : List MappingDraft)

@[simp]
theorem length_numbered : (numbered first origin drafts).length = drafts.length := by
  induction drafts generalizing first with
  | nil => rfl
  | cons draft rest ih => simp [numbered, ih]

theorem anonymous_numbered : (numbered first origin drafts).map Mapping.anonymous =
    drafts.map (Mapping.fill ⟨0, origin, [], []⟩) := by
  induction drafts generalizing first with
  | nil => rfl
  | cons draft rest ih =>
      rw [numbered, List.map_cons, List.map_cons, ih, Mapping.anonymous_fill]
      rfl

/-- The identities of mappings that are made one after the other. -/
def idsFrom (first : MappingId) (count : Nat) : List MappingId :=
  (List.range count).map fun place => first + .ofNat place

theorem idsFrom_add (count more : Nat) :
    idsFrom first (count + more) = idsFrom first count ++ idsFrom (first + .ofNat count) more := by
  unfold idsFrom
  rw [List.range_add, List.map_append, List.map_map]
  congr 2
  funext place
  rw [Function.comp_apply, UInt64.ofNat_add, UInt64.add_assoc]

theorem ids_numbered : (numbered first origin drafts).map Mapping.id =
    idsFrom first drafts.length := by
  induction drafts generalizing first with
  | nil => rfl
  | cons draft rest ih =>
      rw [numbered, List.map_cons, ih, Mapping.id_fill, List.length_cons, Nat.add_comm,
        idsFrom_add]
      simp [idsFrom]

/-- Identities rise while the counter does not start anew. -/
theorem pairwise_idsFrom {count : Nat} (room : first.toNat + count ≤ UInt64.size) :
    (idsFrom first count).Pairwise (· < ·) := by
  unfold idsFrom
  rw [List.pairwise_map]
  apply List.pairwise_lt_range.imp_of_mem
  intro one other _ listed before
  have small : other < count := List.mem_range.mp listed
  have value (place : Nat) (inside : place < count) :
      (first + UInt64.ofNat place).toNat = first.toNat + place := by
    rw [UInt64.toNat_add, UInt64.toNat_ofNat']
    have := first.toNat_lt
    unfold UInt64.size at room
    omega
  rw [UInt64.lt_iff_toNat_lt, value one (before.trans small), value other small]
  omega

theorem blocks_append (earlier later : List Giver) :
    blocks first (earlier ++ later) =
      blocks first earlier ++ blocks (nextId first earlier) later := by
  induction earlier generalizing first with
  | nil => rfl
  | cons giver rest ih => rw [List.cons_append, blocks, ih, blocks, List.cons_append]; rfl

theorem ids_blocks (givers : List Giver) :
    (blocks first givers).flatten.map Mapping.id =
      idsFrom first (blocks first givers).flatten.length := by
  induction givers generalizing first with
  | nil => rfl
  | cons giver rest ih =>
      rw [blocks, List.flatten_cons, List.map_append, ids_numbered, ih, List.length_append,
        length_numbered, idsFrom_add]

/-- A block holds what the drafts of its contributor say. -/
theorem anonymous_blocks (givers : List Giver) :
    (blocks first givers).map (List.map Mapping.anonymous) =
      givers.map fun giver => giver.2.mappings giver.1 := by
  induction givers generalizing first with
  | nil => rfl
  | cons giver rest ih => rw [blocks, List.map_cons, List.map_cons, ih, anonymous_numbered]; rfl

/-- A block is as long as its contributor has drafts. -/
theorem zipWith_blocks {β : Type} (act : String × Component.Contributor → Nat → β)
    (name : String → Origin) (entries : List (String × Component.Contributor)) :
    List.zipWith (fun entry block => act entry (List.length block)) entries
        (blocks first (givers name entries)) =
      entries.map fun entry => act entry entry.2.drafts.length := by
  induction entries generalizing first with
  | nil => rfl
  | cons entry rest ih =>
      rw [givers, List.map_cons, blocks, List.zipWith_cons_cons, length_numbered, List.map_cons]
      exact congrArg _ (ih _)

end

/-- Starting from a set and a counter, contributors have added their blocks, and these calls were
made. -/
structure Adds (outcome : Outcome MappingSet) (counters : Counters) (set : MappingSet)
    (givers : List Giver) (calls : List Call) : Prop where
  result : outcome.result = .ok ⟨set.mappings ++ (blocks counters.mapping givers).flatten⟩
  mapping : outcome.counters.mapping = nextId counters.mapping givers
  calls : outcome.journal.calls = calls

namespace Adds

variable {α : Type} {step : Bootstrap MappingSet} {counters : Counters} {set : MappingSet}
  {givers : List Giver} {calls : List Call}

/-- Contributors go on where those before them have left off. -/
theorem bind (adds : Adds (step.run counters) counters set givers calls)
    {next : MappingSet → Bootstrap MappingSet} {more : List Giver} {later : List Call}
    (rest : ∀ set counters, Adds ((next set).run counters) counters set more later) :
    Adds ((step >>= next).run counters) counters set (givers ++ more) (calls ++ later) := by
  rw [run_bind_ok next adds.result]
  have further := rest ⟨set.mappings ++ (blocks counters.mapping givers).flatten⟩
    (step.run counters).counters
  refine ⟨?_, ?_, ?_⟩
  · rw [further.result, adds.mapping, blocks_append, List.flatten_append, List.append_assoc]
  · rw [further.mapping, adds.mapping, nextId, nextId, nextId, List.foldl_append]
  · rw [Journal.calls_append, adds.calls, further.calls]

/-- Notes before a contribution do not matter to it. -/
theorem after_log {next : Unit → Bootstrap MappingSet}
    (adds : Adds ((next ()).run counters) counters set givers calls) {journal : Journal}
    (notes : journal.calls = []) :
    Adds ((log journal >>= next).run counters) counters set givers calls := by
  rw [run_bind_ok next rfl]
  refine ⟨adds.result, adds.mapping, ?_⟩
  rw [Journal.calls_append, ← adds.calls]
  exact congrArg (· ++ _) notes

/-- Nobody adds anything. -/
theorem nothing (set : MappingSet) (counters : Counters) :
    Adds ((pure set : Bootstrap MappingSet).run counters) counters set [] [] :=
  ⟨congrArg (fun more => Except.ok (MappingSet.mk more)) (List.append_nil _).symm, rfl, rfl⟩

/-- Notes behind contributions do not matter to them. -/
theorem noted (adds : Adds (step.run counters) counters set givers calls)
    {notes : MappingSet → Journal} (quiet : ∀ set, (notes set).calls = []) :
    Adds ((step >>= fun set => log (notes set) >>= fun _ => pure set).run counters) counters set
      givers calls := by
  have silent (set : MappingSet) (counters : Counters) :
      Adds ((log (notes set) >>= fun _ => pure set).run counters) counters set [] [] :=
    after_log (nothing set counters) (quiet set)
  have whole := adds.bind silent
  rwa [List.append_nil, List.append_nil] at whole

/-- What is loaded well is there for what comes next. -/
theorem after_watched {kind : Component.Kind} {name : String} {reply : Component.Reply α}
    {value : α} (loaded : reply.result = .ok value) {next : α → Bootstrap MappingSet}
    (adds : Adds ((next value).run counters) counters set givers calls) :
    Adds ((watched kind name reply >>= next).run counters) counters set givers
      (reply.calls ++ calls) := by
  have ended : ((watched kind name reply).run counters).result = .ok value := loaded
  rw [run_bind_ok next ended]
  refine ⟨adds.result, adds.mapping, ?_⟩
  rw [Journal.calls_append, calls_watched, ← adds.calls]
  rfl

end Adds

/-- The mappings of drafts are numbered on from the counter, and nobody is called for it. -/
theorem run_mappingsOf (origin : Origin) (drafts : List MappingDraft) (counters : Counters) :
    (mappingsOf origin drafts).run counters =
      ⟨[], { counters with mapping := counters.mapping + .ofNat drafts.length },
        .ok (numbered counters.mapping origin drafts)⟩ := by
  induction drafts generalizing counters with
  | nil => simp [mappingsOf, done, run, numbered]
  | cons draft rest ih =>
      let advanced : Counters := { counters with mapping := counters.mapping + 1 }
      have later := ih advanced
      have moved : advanced.mapping + .ofNat rest.length =
          counters.mapping + .ofNat (draft :: rest).length := by
        rw [UInt64.add_assoc, List.length_cons, Nat.add_comm, UInt64.ofNat_add]
        rfl
      have drawn : (freshMapping.run counters).counters = advanced := rfl
      rw [mappingsOf, run_bind_ok _ rfl, drawn, run_bind_ok _ (congrArg Outcome.result later),
        later, moved]
      rfl

/-- A contributor adds a block under the origin by which it was found. -/
theorem adds_contribute (contributor : Component.Contributor) (origin : Origin) (set : MappingSet)
    (counters : Counters) :
    Adds ((contribute contributor origin set).run counters) counters set [(origin, contributor)]
      [.contribute contributor.tag contributor.drafts.length] := by
  have made := run_mappingsOf origin contributor.drafts counters
  unfold contribute
  rw [run_bind_ok _ (congrArg Outcome.result made), made, length_numbered]
  refine ⟨?_, rfl, rfl⟩
  change Except.ok ((numbered counters.mapping origin contributor.drafts).foldl MappingSet.append
    set) = _
  have whole : (blocks counters.mapping [(origin, contributor)]).flatten =
      numbered counters.mapping origin contributor.drafts := by
    simp [blocks]
  rw [whole, ← MappingSet.mappings_foldl_append]

/-- The discovered contributors add a block each, in the order of discovery. -/
theorem adds_contributeDiscovered (discovered : List (String × Component.Contributor))
    (set : MappingSet) (counters : Counters) :
    Adds ((contributeDiscovered set discovered).run counters) counters set
      (givers .discovered discovered)
      (discovered.map fun entry => .contribute entry.2.tag entry.2.drafts.length) := by
  induction discovered generalizing set counters with
  | nil => exact .nothing set counters
  | cons entry rest ih =>
      obtain ⟨name, contributor⟩ := entry
      exact (adds_contribute contributor (.discovered name) set counters).bind ih

/-- The named contributors are loaded one after the other, each adding its block before the next
one is loaded. -/
theorem adds_contributeNamed {loader : Component.Loader} {names : List String}
    {named : List (String × Component.Contributor)} (loads : names.mapM loader.named = .ok named)
    (set : MappingSet) (counters : Counters) :
    Adds ((contributeNamed loader set names).run counters) counters set
      (givers .propertyNamed named)
      (named.flatMap fun entry => (loader.contributor entry.1).calls ++
        [.contribute entry.2.tag entry.2.drafts.length]) := by
  induction names generalizing set counters named with
  | nil =>
      cases loads
      exact .nothing set counters
  | cons name rest ih =>
      rw [List.mapM_cons] at loads
      obtain ⟨entry, first, loads⟩ := ok_of_bind loads
      obtain ⟨others, later, loads⟩ := ok_of_bind loads
      cases loads
      obtain ⟨filled, rfl, loaded⟩ := Component.Loader.of_named first
      rw [contributeNamed, if_neg filled, List.flatMap_cons, List.append_assoc]
      refine Adds.after_watched loaded ?_
      exact (adds_contribute entry.2 (.propertyNamed entry.1) set _).bind (ih later)

/-- Collecting adds a block for everybody who is discovered and one for everybody who is named to
the mappings handed over. -/
theorem adds_collect {loader : Component.Loader} {preSupplied : List Mapping}
    {contributors : Option String} {discovered named : List (String × Component.Contributor)}
    (apart : (preSupplied.map Mapping.id).Nodup)
    (found : loader.discover.result = .ok discovered)
    (loads : ((contributors.map Property.names).getD []).mapM loader.named = .ok named)
    (counters : Counters) :
    Adds ((collect loader preSupplied contributors).run counters) counters ⟨preSupplied⟩
      (givers .discovered discovered ++ givers .propertyNamed named)
      (loader.discover.calls ++
        ((discovered.map fun entry => .contribute entry.2.tag entry.2.drafts.length) ++
          named.flatMap fun entry => (loader.contributor entry.1).calls ++
            [.contribute entry.2.tag entry.2.drafts.length])) := by
  have handedOver : preSupplied.foldl (fun (set : MappingSet) mapping => (set.insert mapping).1)
      ⟨[]⟩ = ⟨preSupplied⟩ := by
    have all : preSupplied.filter (MappingSet.lacks ⟨[]⟩) = preSupplied :=
      List.filter_eq_self.mpr fun _ _ => rfl
    have inserted := MappingSet.mappings_foldl_insert ⟨[]⟩ preSupplied
    rw [Mapping.distinct_eq_self apart, all] at inserted
    exact congrArg MappingSet.mk inserted
  unfold collect
  rw [handedOver]
  apply Adds.after_log _ rfl
  apply Adds.after_watched found
  apply (adds_contributeDiscovered discovered ⟨preSupplied⟩ counters).bind
  intro filled moved
  exact (adds_contributeNamed loads filled moved).noted fun _ => rfl

/-- If collecting succeeds, everybody was discovered and loaded. -/
theorem loads_of_collect {loader : Component.Loader} {preSupplied : List Mapping}
    {contributors : Option String} {counters : Counters} {set : MappingSet}
    (collected : ((collect loader preSupplied contributors).run counters).result = .ok set) :
    ∃ discovered named, loader.discover.result = .ok discovered ∧
      ((contributors.map Property.names).getD []).mapM loader.named = .ok named := by
  have contributed := (yields_collect loader preSupplied contributors).of_ok collected
  obtain ⟨discovered, found, rest⟩ := ok_of_bind contributed
  obtain ⟨named, loads, _⟩ := ok_of_bind rest
  exact ⟨discovered, named, found, loads⟩

end Bootstrap

/-- Names that all stand for contributors are those of the contributors, in order. -/
theorem Component.Loader.of_mapM_named {loader : Loader} {names : List String}
    {named : List (String × Contributor)} (loads : names.mapM loader.named = .ok named) :
    named.map Prod.fst = names ∧
      ∀ entry ∈ named, (loader.contributor entry.1).result = .ok entry.2 := by
  induction names generalizing named with
  | nil =>
      cases loads
      exact ⟨rfl, List.forall_mem_nil _⟩
  | cons name rest ih =>
      rw [List.mapM_cons] at loads
      obtain ⟨entry, first, loads⟩ := ok_of_bind loads
      obtain ⟨others, later, loads⟩ := ok_of_bind loads
      cases loads
      obtain ⟨-, rfl, loaded⟩ := of_named first
      obtain ⟨names, answers⟩ := ih later
      exact ⟨congrArg _ names, List.forall_mem_cons.mpr ⟨loaded, answers⟩⟩

namespace Configuration

/-- However collecting ends, the configuration has no mappings left and is otherwise as before. If
it succeeds, the mappings are those handed over and then one block for each discovered and each
named contributor, in order. A block holds what its contributor puts on mappings, under the origin
that names the contributor; its builder has counted as many mappings as stand in the block. The
identities rise along all blocks, unless their counter starts anew on the way. -/
theorem collect_blockwise {configuration : Configuration}
    (apart : (configuration.mappings.map Mapping.id).Nodup) (loader : Component.Loader)
    (counters : Counters) :
    let (collecting, left) := configuration.collect loader
    let outcome := collecting.run counters
    left = { configuration with mappings := [] } ∧
      ∀ set, outcome.result = .ok set →
        ∃ discovered named offered asked,
          loader.discover.result = .ok discovered ∧
          named.map Prod.fst = configuration.contributorNames ∧
          (∀ entry ∈ named, (loader.contributor entry.1).result = .ok entry.2) ∧
          set.mappings = configuration.mappings ++ offered.flatten ++ asked.flatten ∧
          offered.map (List.map Mapping.anonymous) =
            discovered.map (fun entry => entry.2.mappings (.discovered entry.1)) ∧
          asked.map (List.map Mapping.anonymous) =
            named.map (fun entry => entry.2.mappings (.propertyNamed entry.1)) ∧
          outcome.journal.calls = loader.discover.calls ++
            List.zipWith (fun entry block => .contribute entry.2.tag block.length)
              discovered offered ++
            (List.zipWith (fun entry block => (loader.contributor entry.1).calls ++
              [.contribute entry.2.tag block.length]) named asked).flatten ∧
          (counters.mapping.toNat + (offered ++ asked).flatten.length ≤ UInt64.size →
            ((offered ++ asked).flatten.map Mapping.id).Pairwise (· < ·)) := by
  refine ⟨rfl, fun set collected => ?_⟩
  obtain ⟨discovered, named, found, loads⟩ := Bootstrap.loads_of_collect collected
  obtain ⟨names, answers⟩ := Component.Loader.of_mapM_named loads
  have adds := Bootstrap.adds_collect apart found loads counters
  let first := counters.mapping
  let second := Bootstrap.nextId first (Bootstrap.givers .discovered discovered)
  let offered := Bootstrap.blocks first (Bootstrap.givers .discovered discovered)
  let asked := Bootstrap.blocks second (Bootstrap.givers .propertyNamed named)
  have whole : Bootstrap.blocks first (Bootstrap.givers .discovered discovered ++
      Bootstrap.givers .propertyNamed named) = offered ++ asked :=
    Bootstrap.blocks_append _ _ _
  refine ⟨discovered, named, offered, asked, found, names, answers, ?_, ?_, ?_, ?_, ?_⟩
  · have listed := adds.result
    rw [whole, List.flatten_append, ← List.append_assoc] at listed
    exact congrArg MappingSet.mappings (Except.ok.inj (collected.symm.trans listed))
  · rw [Bootstrap.anonymous_blocks, Bootstrap.givers, List.map_map]
    rfl
  · rw [Bootstrap.anonymous_blocks, Bootstrap.givers, List.map_map]
    rfl
  · rw [Bootstrap.zipWith_blocks first fun entry added => Call.contribute entry.2.tag added,
      Bootstrap.zipWith_blocks second fun entry added => (loader.contributor entry.1).calls ++
        [Call.contribute entry.2.tag added], ← List.flatMap_def, List.append_assoc]
    exact adds.calls
  · intro room
    rw [← whole] at room ⊢
    rw [Bootstrap.ids_blocks]
    exact Bootstrap.pairwise_idsFrom first room

/-- A contributor that is on offer and is named as well adds its mappings twice, behind the mapping
that was handed over. -/
theorem collect_blockwise_of_found_twice :
    let contributor : Component.Contributor := ⟨"Orders", [⟨[], []⟩, ⟨[], [⟨"Order", []⟩]⟩]⟩
    let loader : Component.Loader := {
      discover := ⟨[.construct "Orders"], .ok [("orders", contributor)]⟩
      contributor := fun _ => ⟨[.construct "Orders"], .ok contributor⟩
      scriptEvaluators := fun name =>
        ⟨[], .error (Component.notRegistered .scriptEvaluators name)⟩ }
    let configuration : Configuration := {
      mappings := [⟨3, .preSupplied, [], []⟩]
      properties := .ofList [(PropertyKey.contributors.name, "orders")] }
    let outcome := (configuration.collect loader).1.run ⟨7, 0⟩
    (configuration.mappings.map Mapping.id).Nodup ∧
      ∃ set contributed, outcome.result = .ok set ∧
        set.mappings = configuration.mappings ++ contributed ∧
        contributed.map Mapping.origin = [.discovered "orders", .discovered "orders",
          .propertyNamed "orders", .propertyNamed "orders"] ∧
        (contributed.map Mapping.id).Pairwise (· < ·) := by
  intro contributor loader configuration outcome
  have apart : (configuration.mappings.map Mapping.id).Nodup := List.nodup_singleton 3
  have names : configuration.contributorNames = ["orders"] := rfl
  have loads : configuration.contributorNames.mapM loader.named =
      .ok [("orders", contributor)] := by
    rw [names]
    rfl
  have collected := (Bootstrap.adds_collect apart rfl loads ⟨7, 0⟩).result
  obtain ⟨-, blockwise⟩ := collect_blockwise apart loader ⟨7, 0⟩
  obtain ⟨_, _, offered, asked, -, -, -, listed, -, -, -, rising⟩ := blockwise _ collected
  rw [List.append_assoc, ← List.flatten_append] at listed
  have behind := List.append_cancel_left listed
  rw [← behind] at rising
  exact ⟨apart, _, _, collected, rfl, rfl, rising (by decide)⟩

end Configuration

end BeanConstraints
