/-
# The order of calls

Building with the components of a registry follows a plan that can be read off the
configuration: parse the documents, make everything on offer, have all of it add its
mappings, go through the named contributors, check definitions and flags, and make
the script evaluators. Whatever fails is the last thing that is tried.

The order within the plan is not the same for all contributors. Those that are
discovered are all made before any of them adds anything, those that a property
names are made one by one, each adding its mappings before the next is made.
-/

import BeanConstraints.Component.Registry
import BeanConstraints.Proofs.Attempts
import Mathlib.Data.List.Induction

namespace BeanConstraints

namespace Component

/-- What running a constructor under a name tries. -/
def Constructor.attempt {α : Type} (constructor : Constructor α) (kind : Kind) (name : String) :
    Attempt :=
  ⟨some (.construct constructor.tag),
    (Fault.of? constructor.result).map (constructionFault kind name)⟩

theorem Constructor.runAs_attempt {α : Type} (constructor : Constructor α) (kind : Kind)
    (name : String) :
    (constructor.runAs kind name).calls = Attempt.calls [constructor.attempt kind name] ∧
      Fault.of? (constructor.runAs kind name).result =
        Attempt.fault? [constructor.attempt kind name] := by
  rw [Attempt.calls_singleton, Attempt.fault?_singleton]
  exact ⟨rfl, Fault.of?_mapError _ _⟩

/-- Having a contributor add its mappings. It cannot fail. -/
def Contributor.attempt (contributor : Contributor) : Attempt :=
  ⟨some (.contribute contributor.tag contributor.drafts.length), none⟩

/-- What the contributor that a constructor makes is asked for, if it makes one. -/
def Constructor.contribution (constructor : Constructor Contributor) : List Attempt :=
  match constructor.result with
  | .ok contributor => [contributor.attempt]
  | .error _ => []

theorem Constructor.contribution_of_runAs {constructor : Constructor Contributor} {kind : Kind}
    {name : String} {contributor : Contributor}
    (made : (constructor.runAs kind name).result = .ok contributor) :
    constructor.contribution = [contributor.attempt] := by
  unfold Constructor.runAs at made
  unfold Constructor.contribution
  cases ended : constructor.result with
  | error fault =>
      rw [ended] at made
      cases made
  | ok value =>
      rw [ended] at made
      cases made
      rfl

namespace Registry

variable (registry : Registry)

/-- The contributors that a registry offers, in the order of their first registration. -/
def offers : List (String × Registered) :=
  registry.contributors.filter fun entry => entry.2.discoverable

/-- A name keeps its place, and a new one is the last. -/
theorem order_registerContributor (name : String) (constructor : Constructor Contributor)
    (discoverable : Bool) : (registry.registerContributor name constructor discoverable).order =
      if name ∈ registry.order then registry.order else registry.order ++ [name] := by
  simp only [registerContributor, orderWith, registry.listed]

/-- What discovery tries: to make everything that is on offer. -/
def discovering : List Attempt :=
  registry.offers.map fun entry => entry.2.constructor.attempt .mappingContributor entry.1

/-- What comes after discovery: everything on offer adds its mappings. -/
def contributing : List Attempt :=
  registry.offers.flatMap fun entry => entry.2.constructor.contribution

/-- What a name in the list of contributors has tried: to make the contributor, which adds its
mappings at once. Nobody is called for a name that is empty or not registered. -/
def naming (name : String) : List Attempt :=
  if name.isEmpty then
    [.check (some (.componentLoad .mappingContributor name "empty entry in the contributor list"))]
  else match registry.contributor? name with
    | none => [.check (some (notRegistered .mappingContributor name))]
    | some entry =>
        entry.constructor.attempt .mappingContributor name :: entry.constructor.contribution

/-- What the name of script evaluators has tried. -/
def scripting (name : String) : Attempt :=
  match registry.scripts.get? name with
  | none => .check (some (notRegistered .scriptEvaluators name))
  | some constructor => constructor.attempt .scriptEvaluators name

theorem discoverFrom_attempts (entries : List (String × Registered)) :
    let attempts := (entries.filter fun entry => entry.2.discoverable).map fun entry =>
      entry.2.constructor.attempt .mappingContributor entry.1
    (discoverFrom entries).calls = Attempt.calls attempts ∧
      Fault.of? (discoverFrom entries).result = Attempt.fault? attempts := by
  induction entries with
  | nil => exact ⟨rfl, rfl⟩
  | cons entry rest ih =>
      obtain ⟨name, entry⟩ := entry
      rw [discoverFrom, List.filter_cons]
      split
      · simp only [Constructor.runAs, List.map_cons, Attempt.calls, Attempt.fault?_cons,
          Constructor.attempt]
        cases entry.constructor.result with
        | error fault => exact ⟨rfl, rfl⟩
        | ok contributor =>
            refine ⟨congrArg _ ih.1, ?_⟩
            exact (Fault.of?_map _ _).trans ih.2
      · exact ih

/-- What is discovered is what the constructors on offer make. -/
theorem contribution_of_discoverFrom {entries : List (String × Registered)}
    {discovered : List (String × Contributor)}
    (all : (discoverFrom entries).result = .ok discovered) :
    (discovered.map fun entry => entry.2.attempt) =
      (entries.filter fun entry => entry.2.discoverable).flatMap fun entry =>
        entry.2.constructor.contribution := by
  induction entries generalizing discovered with
  | nil =>
      cases all
      rfl
  | cons entry rest ih =>
      obtain ⟨name, entry⟩ := entry
      rw [discoverFrom] at all
      rw [List.filter_cons]
      split at all
      · rename_i offered
        rw [if_pos offered, List.flatMap_cons]
        dsimp only at all
        cases made : (entry.constructor.runAs .mappingContributor name).result with
        | error fault =>
            rw [made] at all
            cases all
        | ok contributor =>
            rw [made] at all
            rw [Constructor.contribution_of_runAs made]
            obtain ⟨others, later, rfl⟩ := ok_of_map all
            exact congrArg _ (ih later)
      · rename_i hidden
        rw [if_neg hidden]
        exact ih all

end Registry

end Component

namespace Bootstrap

theorem tries_mappingsOf (origin : Origin) (drafts : List MappingDraft) :
    (mappingsOf origin drafts).Tries [] := by
  induction drafts with
  | nil => exact tries_pure []
  | cons draft rest ih =>
      exact tries_freshMapping.after fun _ => ih.after fun _ => tries_pure _

theorem tries_contribute (contributor : Component.Contributor) (origin : Origin)
    (set : MappingSet) : (contribute contributor origin set).Tries [contributor.attempt] := by
  refine (tries_mappingsOf origin contributor.drafts).bind fun _ added ended => ?_
  have contents := Except.ok.inj ((yields_mappingsOf origin contributor.drafts).of_ok ended)
  have many : added.length = contributor.drafts.length := by
    have lengths := congrArg List.length contents
    rw [List.length_map, List.length_map] at lengths
    exact lengths.symm
  rw [Component.Contributor.attempt, ← many]
  exact (tries_call _).before fun _ => (tries_log rfl).after fun _ => tries_pure _

theorem tries_contributeDiscovered (discovered : List (String × Component.Contributor))
    (set : MappingSet) :
    (contributeDiscovered set discovered).Tries
      (discovered.map fun entry => entry.2.attempt) := by
  induction discovered generalizing set with
  | nil => exact tries_pure set
  | cons entry rest ih =>
      exact (tries_contribute entry.2 (.discovered entry.1) set).bind fun _ later _ => ih later

theorem tries_contributeNamed (registry : Component.Registry) (names : List String)
    (set : MappingSet) :
    (contributeNamed registry.loader set names).Tries (names.flatMap registry.naming) := by
  induction names generalizing set with
  | nil => exact tries_pure set
  | cons name rest ih =>
      rw [contributeNamed, List.flatMap_cons, Component.Registry.naming]
      split
      · exact (tries_fail _).cut rfl _
      · change (watched .mappingContributor name (registry.loadContributor name) >>= _).Tries _
        rw [Component.Registry.loadContributor]
        cases registry.contributor? name with
        | none => exact Tries.bind (tries_watched rfl rfl) fun _ _ ended => by cases ended
        | some entry =>
            obtain ⟨calls, fault⟩ := entry.constructor.runAs_attempt .mappingContributor name
            refine (tries_watched calls fault).bind fun _ contributor ended => ?_
            rw [Component.Constructor.contribution_of_runAs ended]
            exact (tries_contribute contributor (.propertyNamed name) set).bind
              fun _ later _ => ih later

theorem tries_collect (registry : Component.Registry) (preSupplied : List Mapping)
    (contributors : Option String) :
    (collect registry.loader preSupplied contributors).Tries
      (registry.discovering ++ (registry.contributing ++
        ((contributors.map Property.names).getD []).flatMap registry.naming)) := by
  apply (tries_log rfl).after
  intro _
  obtain ⟨calls, fault⟩ := Component.Registry.discoverFrom_attempts registry.contributors
  refine (tries_watched calls fault).bind fun _ discovered ended => ?_
  have made : (discovered.map fun entry => entry.2.attempt) = registry.contributing :=
    Component.Registry.contribution_of_discoverFrom ended
  rw [← made]
  refine (tries_contributeDiscovered discovered _).bind fun _ set _ => ?_
  refine (tries_contributeNamed registry _ set).before fun later => ?_
  exact (tries_log rfl).after fun _ => tries_pure later

end Bootstrap

namespace Configuration

variable (configuration : Configuration) (registry : Component.Registry)

/-- What reading the documents tries: to parse one stream after the other. Nobody is called if
there are streams and no parser. -/
def parsing : List Attempt :=
  match configuration.parser with
  | some parser =>
      configuration.streams.map fun stream => ⟨some (.parse stream.name), streamFault parser stream⟩
  | none =>
      if configuration.streams = [] then []
      else [.check (some (.missingParser configuration.streams.length))]

/-- What is tried until all mappings are there: the documents are parsed, everything on offer is
made and then adds its mappings, and the named contributors are made and add theirs in turn. -/
def gathering : List Attempt :=
  configuration.parsing ++ (registry.discovering ++ (registry.contributing ++
    configuration.contributorNames.flatMap registry.naming))

/-- What is looked at once all mappings are there: whether a constraint is defined twice and
whether the flags contradict each other. -/
def checking : List Attempt := [
  .check ((Registration.firstRepeated (configuration.definitions registry.loader)).map
    Registration.repetition),
  .check configuration.flagsFault]

/-- What is tried for script evaluators: only those that a property names have to be made, and only
if none are given. -/
def choosing : List Attempt :=
  match configuration.scripts, configuration.property? PropertyKey.scriptEvaluators.name with
  | none, some name =>
      let attempt := registry.scripting name
      [⟨attempt.call, attempt.fault.map (Fault.scriptEvaluators name)⟩]
  | _, _ => []

/-- Everything that is tried on the way to a factory, in its order. -/
def plan : List Attempt :=
  configuration.gathering registry ++ (configuration.checking registry ++
    configuration.choosing registry)

end Configuration

namespace Factory

open Bootstrap

theorem tries_readFrom (parser : MappingParser) (documents : Metadata.Documents)
    (streams : List MappingStream) :
    (Metadata.Documents.readFrom parser documents streams).Tries
      (streams.map fun stream =>
        ⟨some (.parse stream.name), Configuration.streamFault parser stream⟩) := by
  induction streams generalizing documents with
  | nil => exact tries_pure documents
  | cons stream rest ih =>
      rw [Metadata.Documents.readFrom, List.map_cons, Configuration.streamFault]
      cases parser stream with
      | error reasons => exact (tries_call _).bind fun _ _ _ => tries_fail _
      | ok beans =>
          exact (tries_call _).bind fun _ _ _ => (tries_log rfl).after fun _ => ih _

theorem tries_readDocuments (configuration : Configuration) :
    (readDocuments configuration).Tries configuration.parsing := by
  unfold readDocuments Configuration.parsing
  cases configuration.streams with
  | nil => cases configuration.parser <;> exact tries_pure none
  | cons stream rest =>
      cases configuration.parser with
      | none => exact tries_fail _
      | some parser =>
          exact (tries_readFrom parser .empty (stream :: rest)).before fun _ => tries_pure _

/-- Registration calls nobody. -/
theorem calls_register (seen : List Constraint) (registry : Registry)
    (definitions : List (Origin × Definition)) :
    (Registration.fold seen registry definitions).journal.calls = [] := by
  induction definitions generalizing seen registry with
  | nil => rfl
  | cons entry rest ih =>
      rw [Registration.fold]
      split
      · rfl
      · exact ih _ _

theorem tries_register (sealed : SealedMappings) :
    (register sealed).Tries
      [.check ((Registration.firstRepeated sealed.definitions).map Registration.repetition)] := by
  unfold register Registry.register
  apply (tries_log (calls_register _ _ _)).after
  intro _
  rw [← Registration.fault_fold_nil Registry.standard]
  cases (Registration.fold [] Registry.standard sealed.definitions).fault with
  | none => exact fun _ => ⟨rfl, rfl⟩
  | some fault => exact tries_fail fault

theorem tries_chooseScripts (configuration : Configuration) (registry : Component.Registry) :
    (chooseScripts registry.loader configuration).Tries (configuration.choosing registry) := by
  unfold chooseScripts Configuration.choosing
  cases configuration.scripts with
  | some scripts => exact (tries_log rfl).after fun _ => tries_pure scripts
  | none =>
      cases configuration.property? PropertyKey.scriptEvaluators.name with
      | none => exact tries_instantiate _
      | some name =>
          have loaded : (watched .scriptEvaluators name (registry.loadScripts name)).Tries
              [registry.scripting name] := by
            unfold Component.Registry.loadScripts Component.Registry.scripting
            cases registry.scripts.get? name with
            | none => exact tries_watched rfl rfl
            | some constructor =>
                obtain ⟨calls, fault⟩ := constructor.runAs_attempt .scriptEvaluators name
                exact tries_watched calls fault
          apply (loaded.mapFault _).before
          exact fun scripts => (tries_log rfl).after fun _ => tries_instantiate scripts

/-- Building tries what is planned. -/
theorem tries_build {shared : Component.Loader} {configuration : Configuration}
    {registry : Component.Registry} (served : configuration.loader.getD shared = registry.loader) :
    (build shared configuration).Tries (configuration.plan registry) := by
  unfold build
  rw [served]
  apply (tries_configuredOr _ _).after
  intro interpolator
  apply (tries_configuredOr _ _).after
  intro traversal
  apply (tries_configuredOr _ _).after
  intro naming
  apply (tries_configuredOr _ _).after
  intro clock
  apply (tries_configuredOr _ _).after
  intro validators
  unfold Configuration.plan Configuration.gathering
  rw [List.append_assoc]
  refine (tries_readDocuments configuration).bind fun _ documents _ => ?_
  refine (tries_collect registry _ _).bind fun _ collected ended => ?_
  have definitions : collected.seal.definitions = configuration.definitions registry.loader := by
    have contents := (yields_collect registry.loader configuration.mappings _).of_ok ended
    rw [← definitions_of_contributions contents]
    exact (SealedMappings.definitions_anonymous _).symm
  unfold Configuration.checking
  rw [← definitions]
  refine (tries_register collected.seal).bind fun _ definedBy _ => ?_
  rw [← Configuration.of?_resolve]
  refine (tries_ofExcept _).bind fun _ flags _ => ?_
  refine (tries_chooseScripts configuration registry).before fun scripts => ?_
  exact (tries_log rfl).after fun _ => tries_pure _

end Factory

/-- Whether a fault is one of reading documents or loading contributors. -/
def Fault.ofGathering : Fault → Bool
  | .missingParser _ => true
  | .mappingParse _ _ => true
  | .componentLoad _ _ _ => true
  | _ => false

namespace Component

/-- A failed constructor counts as a fault of loading, whatever it failed with. -/
theorem ofGathering_constructionFault (kind : Kind) (name : String) (fault : Fault) :
    (constructionFault kind name fault).ofGathering = true := by
  cases fault <;> rfl

theorem Constructor.ofGathering_attempt {α : Type} {constructor : Constructor α} {kind : Kind}
    {name : String} {fault : Fault} (failed : (constructor.attempt kind name).fault = some fault) :
    fault.ofGathering = true := by
  obtain ⟨cause, _, rfl⟩ := Option.map_eq_some_iff.mp failed
  exact ofGathering_constructionFault kind name cause

/-- A contributor that was made does not fail. -/
theorem Constructor.fault_contribution {constructor : Constructor Contributor} {attempt : Attempt}
    (listed : attempt ∈ constructor.contribution) : attempt.fault = none := by
  unfold contribution at listed
  split at listed
  · rw [List.mem_singleton.mp listed]
    rfl
  · cases listed

theorem Registry.ofGathering_naming {registry : Registry} {name : String} {attempt : Attempt}
    {fault : Fault} (listed : attempt ∈ registry.naming name)
    (failed : attempt.fault = some fault) :
    fault.ofGathering = true := by
  unfold naming at listed
  split at listed
  · rw [List.mem_singleton.mp listed] at failed
    cases failed
    rfl
  · split at listed
    · rw [List.mem_singleton.mp listed] at failed
      cases failed
      rfl
    · rcases List.mem_cons.mp listed with rfl | later
      · exact Constructor.ofGathering_attempt failed
      · rw [Constructor.fault_contribution later] at failed
        cases failed

end Component

namespace Configuration

variable {configuration : Configuration} {registry : Component.Registry}

theorem ofGathering_parsing {attempt : Attempt} {fault : Fault}
    (listed : attempt ∈ configuration.parsing) (failed : attempt.fault = some fault) :
    fault.ofGathering = true := by
  unfold parsing at listed
  split at listed
  · obtain ⟨stream, _, rfl⟩ := List.mem_map.mp listed
    unfold streamFault at failed
    split at failed <;> cases failed
    rfl
  · split at listed
    · cases listed
    · rw [List.mem_singleton.mp listed] at failed
      cases failed
      rfl

/-- What fails before the mappings are there is reading or loading. -/
theorem ofGathering_gathering {fault : Fault}
    (first : Attempt.fault? (configuration.gathering registry) = some fault) :
    fault.ofGathering = true := by
  obtain ⟨attempt, listed, failed⟩ := List.exists_of_findSome?_eq_some first
  unfold gathering at listed
  rw [List.mem_append, List.mem_append, List.mem_append] at listed
  rcases listed with parsed | discovered | contributed | named
  · exact ofGathering_parsing parsed failed
  · obtain ⟨entry, _, rfl⟩ := List.mem_map.mp discovered
    exact Component.Constructor.ofGathering_attempt failed
  · obtain ⟨entry, _, there⟩ := List.mem_flatMap.mp contributed
    rw [Component.Constructor.fault_contribution there] at failed
    cases failed
  · obtain ⟨name, _, there⟩ := List.mem_flatMap.mp named
    exact Component.Registry.ofGathering_naming there failed

/-- If something on offer cannot be made, nothing is asked to contribute. -/
theorem contribute_not_mem_plan
    (failing : ∃ entry ∈ registry.offers, (Fault.of? entry.2.constructor.result).isSome = true)
    (tag : String) (added : Nat) :
    .contribute tag added ∉ Attempt.calls (configuration.plan registry) := by
  have stopped :
      (Attempt.fault? (configuration.parsing ++ registry.discovering)).isSome = true := by
    obtain ⟨entry, offered, failed⟩ := failing
    obtain ⟨fault, reason⟩ := Option.isSome_iff_exists.mp failed
    rw [Attempt.fault?, List.findSome?_isSome_iff]
    refine ⟨_, List.mem_append_right _ (List.mem_map_of_mem offered), ?_⟩
    simp [Component.Constructor.attempt, reason]
  unfold plan gathering
  rw [List.append_assoc, List.append_assoc, ← List.append_assoc, Attempt.calls_append,
    if_pos stopped, List.append_nil]
  intro made
  obtain ⟨attempt, listed, called⟩ := Attempt.exists_of_mem_calls made
  rcases List.mem_append.mp listed with parsed | discovered
  · unfold parsing at parsed
    split at parsed
    · obtain ⟨stream, _, rfl⟩ := List.mem_map.mp parsed
      cases called
    · split at parsed
      · cases parsed
      · rw [List.mem_singleton.mp parsed] at called
        cases called
  · obtain ⟨entry, _, rfl⟩ := List.mem_map.mp discovered
    cases called

/-- Without a parser for the streams nobody is called. -/
theorem calls_plan_eq_nil (given : configuration.streams ≠ [])
    (missing : configuration.parser = none) :
    Attempt.calls (configuration.plan registry) = [] := by
  have parsing : configuration.parsing =
      [.check (some (.missingParser configuration.streams.length))] := by
    rw [Configuration.parsing, missing]
    exact if_neg given
  unfold plan gathering
  rw [parsing]
  rfl

/-- A fault that is found once the mappings are there, before script evaluators are chosen, comes
after all that is tried to get the mappings and before anything else. -/
theorem calls_plan_of_checked {fault : Fault}
    (first : Attempt.fault? (configuration.plan registry) = some fault)
    (late : fault.ofGathering = false)
    (early : ∀ name cause, fault ≠ .scriptEvaluators name cause) :
    Attempt.calls (configuration.plan registry) =
        (configuration.gathering registry).filterMap Attempt.call ∧
      ∀ attempt ∈ configuration.gathering registry, attempt.fault = none := by
  have gathered : Attempt.fault? (configuration.gathering registry) = none := by
    by_contra failing
    obtain ⟨other, reason⟩ := Option.ne_none_iff_exists'.mp failing
    rw [plan, Attempt.fault?_append, reason] at first
    cases first
    rw [ofGathering_gathering reason] at late
    cases late
  have checked : (Attempt.fault? (configuration.checking registry)).isSome = true := by
    rw [plan, Attempt.fault?_append, gathered, Attempt.fault?_append] at first
    cases found : Attempt.fault? (configuration.checking registry) with
    | some _ => rfl
    | none =>
        rw [found] at first
        change Attempt.fault? (configuration.choosing registry) = some fault at first
        unfold choosing at first
        split at first
        · rw [Attempt.fault?_singleton] at first
          obtain ⟨cause, _, named⟩ := Option.map_eq_some_iff.mp first
          exact absurd named.symm (early _ _)
        · cases first
  refine ⟨?_, List.findSome?_eq_none_iff.mp gathered⟩
  rw [plan, Attempt.calls_append, gathered, Attempt.calls_append, if_pos checked,
    ← Attempt.calls_eq_filterMap gathered]
  simp [checking, Attempt.calls, Attempt.check]

end Configuration

namespace Factory

/-- From any counters, building with the components of a registry makes the calls that are planned,
in the order of the plan and up to the first attempt that fails, whose fault it ends with. So no
contributor adds anything if one on offer cannot be made, nobody is called if a parser is missing,
and when a definition is repeated or the flags contradict each other, everything has been called
for the mappings and nobody for script evaluators. -/
theorem calls_build_of_registry {shared : Component.Loader} {configuration : Configuration}
    {registry : Component.Registry} (served : configuration.loader.getD shared = registry.loader)
    (counters : Counters) :
    let outcome := (build shared configuration).run counters
    outcome.journal.calls = Attempt.calls (configuration.plan registry) ∧
      Fault.of? outcome.result = Attempt.fault? (configuration.plan registry) ∧
      ((∃ entry ∈ registry.offers, (Fault.of? entry.2.constructor.result).isSome = true) →
        ∀ tag added, .contribute tag added ∉ outcome.journal.calls) ∧
      (configuration.streams ≠ [] → configuration.parser = none → outcome.journal.calls = []) ∧
      ∀ fault, outcome.result = .error fault →
        (fault = .inconsistentFailFast ∨
          ∃ constraint origin, fault = .duplicateDefinition constraint origin) →
        outcome.journal.calls = (configuration.gathering registry).filterMap Attempt.call ∧
          ∀ attempt ∈ configuration.gathering registry, attempt.fault = none := by
  intro outcome
  obtain ⟨calls, ended⟩ := tries_build served counters
  change outcome.journal.calls = _ at calls
  change Fault.of? outcome.result = _ at ended
  refine ⟨calls, ended, ?_, ?_, ?_⟩
  · intro failing tag added
    rw [calls]
    exact Configuration.contribute_not_mem_plan failing tag added
  · intro given missing
    rw [calls]
    exact Configuration.calls_plan_eq_nil given missing
  · intro fault failed checked
    rw [failed] at ended
    rw [calls]
    rcases checked with rfl | ⟨constraint, origin, rfl⟩
    · exact Configuration.calls_plan_of_checked ended.symm rfl fun _ _ same => by cases same
    · exact Configuration.calls_plan_of_checked ended.symm rfl fun _ _ same => by cases same

/-- Two contributors are on offer and both are made before the first of them adds its mapping; the
named ones follow one by one, and last come the script evaluators, which fail. -/
theorem calls_build_of_three_contributors :
    let registry := Component.Registry.empty
      |>.registerContributor "orders" ⟨"Orders", .ok ⟨"Orders", [⟨[], []⟩]⟩⟩ true
      |>.registerContributor "prices" ⟨"Prices", .ok ⟨"Prices", []⟩⟩ false
      |>.registerContributor "items" ⟨"Items", .ok ⟨"Items", []⟩⟩ true
      |>.registerScripts "js" ⟨"Js", .error .inconsistentFailFast⟩
    let configuration : Configuration := {
      streams := [⟨"orders.xml", ""⟩]
      parser := some fun _ => .ok []
      loader := some registry.loader
      properties := .ofList [(PropertyKey.contributors.name, "prices, orders"),
        (PropertyKey.scriptEvaluators.name, "js")] }
    configuration.loader.getD Component.Registry.shared.loader = registry.loader ∧
      ((build Component.Registry.shared.loader configuration).run {}).journal.calls =
        [.parse "orders.xml", .construct "Orders", .construct "Items", .contribute "Orders" 1,
          .contribute "Items" 0, .construct "Prices", .contribute "Prices" 0, .construct "Orders",
          .contribute "Orders" 1, .construct "Js"] := by
  intro registry configuration
  have served : configuration.loader.getD Component.Registry.shared.loader = registry.loader := rfl
  exact ⟨served, (calls_build_of_registry served {}).1.trans rfl⟩

end Factory

end BeanConstraints
