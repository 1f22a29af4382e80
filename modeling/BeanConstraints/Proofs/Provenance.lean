/-
# What diagnostics trace faults to

Three kinds of diagnostic end with a line on a property: the flag that contradicts
the code, the list in which a contributor is named, and the name of the script
evaluators. A diagnostic is made of the fault alone and does not see the
configuration, so whether the property is there depends on the ways in which
building can come to the fault.

The flag and the script evaluators are looked at only where the property is there. A
contributor is loaded because a property names it or because the loader offers it,
and both end with the same kind of fault. So a contributor that is on offer and
cannot be made is said to be named in the list also where there is no list.
-/

import BeanConstraints.Proofs.Enrolment

namespace BeanConstraints

namespace Fault

/-- What a diagnostic repeats of the fault, its cause or its reason or where it was found. -/
def cited : Fault → List String
  | duplicateDefinition _ origin => ["second definition comes from " ++ origin.text]
  | componentLoad _ _ reason => [reason]
  | scriptEvaluators _ cause => [cause.message]
  | mappingParse _ message => [message]
  | unsupportedUnwrap typeName =>
      ["only the factory type itself can be unwrapped, not " ++ ticked typeName]
  | inconsistentFailFast => []
  | missingParser _ => []

/-- The property that a diagnostic traces the fault to, with the line that says so. -/
def traced? : Fault → Option (PropertyKey × String)
  | inconsistentFailFast => some (.failFast,
      ticked PropertyKey.failFast.name ++ " resolves to false while fail-fast was enabled in code")
  | componentLoad .mappingContributor _ _ =>
      some (.contributors, "named in " ++ ticked PropertyKey.contributors.name)
  | scriptEvaluators name _ => some (.scriptEvaluators,
      ticked PropertyKey.scriptEvaluators.name ++ " = " ++ ticked name)
  | _ => none

/-- A diagnostic explains a fault by what it repeats of it, and then by the property. -/
theorem context_diagnostic (fault : Fault) :
    fault.diagnostic.context = fault.cited ++ (fault.traced?.map Prod.snd).toList := by
  cases fault with
  | componentLoad kind name reason => cases kind <;> rfl
  | _ => rfl

/-- A fault of loading is traced to the list of contributors or to nothing. -/
theorem key_of_traced_componentLoad {kind : Component.Kind} {name reason line : String}
    {key : PropertyKey} (traced : (componentLoad kind name reason).traced? = some (key, line)) :
    kind = .mappingContributor ∧ key = .contributors := by
  cases kind with
  | mappingContributor => exact ⟨rfl, (congrArg Prod.fst (Option.some.inj traced)).symm⟩
  | scriptEvaluators => cases traced

end Fault

namespace Component.Registry

variable {registry : Registry} {fault : Fault}

/-- What discovery fails with is one of loading. -/
theorem componentLoad_of_discover (failed : registry.discover.result = .error fault) :
    ∃ kind name reason, fault = .componentLoad kind name reason :=
  (discovers_discoverFrom registry.contributors).fault failed

/-- What is wrong with a name in the list of contributors is one of loading. -/
theorem componentLoad_of_entryFault {name : String}
    (wrong : registry.loader.entryFault name = some fault) :
    ∃ kind name reason, fault = .componentLoad kind name reason := by
  unfold Loader.entryFault at wrong
  split at wrong
  · cases wrong
    exact ⟨_, _, _, rfl⟩
  · exact (registry.loads_loadContributor name).fault (Fault.of?_eq_some_iff.mp wrong)

end Component.Registry

namespace Configuration

variable {configuration : Configuration} {fault : Fault}

/-- What is wrong with the documents is not traced to a property. -/
theorem traced?_of_streamsFault (wrong : configuration.streamsFault = some fault) :
    fault.traced? = none := by
  unfold streamsFault at wrong
  split at wrong
  · obtain ⟨stream, _, failed⟩ := List.exists_of_findSome?_eq_some wrong
    unfold streamFault at failed
    split at failed <;> cases failed
    rfl
  · split at wrong <;> cases wrong
    rfl

/-- Contributors are named only where the property is there. -/
theorem isSome_contributors {name : String} (named : name ∈ configuration.contributorNames) :
    (configuration.property? PropertyKey.contributors.name).isSome = true := by
  unfold contributorNames at named
  cases there : configuration.property? PropertyKey.contributors.name with
  | none =>
      rw [there] at named
      cases named
  | some value => rfl

/-- The flags are at fault only where the property is there. -/
theorem isSome_failFast (wrong : configuration.flagsFault = some fault) :
    fault = .inconsistentFailFast ∧
      (configuration.property? PropertyKey.failFast.name).isSome = true := by
  unfold flagsFault at wrong
  split at wrong
  · rename_i contradicted
    obtain ⟨value, there, _⟩ := Option.any_eq_true _ _ |>.mp (Bool.and_eq_true _ _ ▸ contradicted).2
    exact ⟨(Option.some.inj wrong).symm, Option.isSome_iff_exists.mpr ⟨value, there⟩⟩
  · cases wrong

/-- Script evaluators are at fault only where the property is there. -/
theorem isSome_scriptEvaluators {loader : Component.Loader}
    (wrong : configuration.scriptsFault loader = some fault) :
    (∃ name cause, fault = .scriptEvaluators name cause) ∧
      (configuration.property? PropertyKey.scriptEvaluators.name).isSome = true := by
  unfold scriptsFault at wrong
  split at wrong
  · rename_i name _ there
    obtain ⟨cause, _, rfl⟩ := Option.map_eq_some_iff.mp wrong
    exact ⟨⟨name, cause, rfl⟩, Option.isSome_iff_exists.mpr ⟨name, there⟩⟩
  · cases wrong

/-- A property that a fault of a configuration is traced to is there, or else the fault is that of
discovering contributors. -/
theorem present_or_discovered {shared : Component.Loader} {registry : Component.Registry}
    (served : configuration.loader.getD shared = registry.loader)
    (first : configuration.fault? shared = some fault) {key : PropertyKey} {line : String}
    (traced : fault.traced? = some (key, line)) :
    (configuration.property? key.name).isSome = true ∨
      (key = .contributors ∧ configuration.streamsFault = none ∧
        registry.discover.result = .error fault ∧
        ∃ name reason, fault = .componentLoad .mappingContributor name reason) := by
  simp only [fault?, served, Option.or_assoc, Option.or_eq_some_iff] at first
  rcases first with documents | ⟨read, discovery | ⟨_, named | ⟨_, defined | ⟨_, flags |
    ⟨_, scripts⟩⟩⟩⟩⟩
  · rw [traced?_of_streamsFault documents] at traced
    cases traced
  · have failed := Fault.of?_eq_some_iff.mp discovery
    obtain ⟨kind, name, reason, rfl⟩ := registry.componentLoad_of_discover failed
    obtain ⟨rfl, rfl⟩ := Fault.key_of_traced_componentLoad traced
    exact .inr ⟨rfl, read, failed, name, reason, rfl⟩
  · obtain ⟨name, listed, wrong⟩ := List.exists_of_findSome?_eq_some named
    obtain ⟨kind, _, reason, rfl⟩ := registry.componentLoad_of_entryFault wrong
    obtain ⟨rfl, rfl⟩ := Fault.key_of_traced_componentLoad traced
    exact .inl (isSome_contributors listed)
  · obtain ⟨repeated, _, rfl⟩ := Option.map_eq_some_iff.mp defined
    cases traced
  · obtain ⟨rfl, there⟩ := isSome_failFast flags
    cases traced
    exact .inl there
  · obtain ⟨⟨name, cause, rfl⟩, there⟩ := isSome_scriptEvaluators scripts
    cases traced
    exact .inl there

end Configuration

namespace Factory

/-- When building with the components of a registry fails, the diagnostic consists of what it
repeats of the fault and of a line on a property for some faults. The property is there, unless the
fault is that of discovering contributors. So a property is blamed that is not there exactly if
there is no list of contributors, the documents are in order, and a contributor on offer is the
first that cannot be made. -/
theorem traced_absent_iff_of_registry {shared : Component.Loader} {configuration : Configuration}
    {registry : Component.Registry} (served : configuration.loader.getD shared = registry.loader)
    (counters : Counters) (fault : Fault) :
    let ended := ((build shared configuration).run counters).result
    fault.diagnostic.context = fault.cited ++ (fault.traced?.map Prod.snd).toList ∧
      (ended = .error fault → ∀ key line, fault.traced? = some (key, line) →
        (configuration.property? key.name).isSome = true ∨
          (key = .contributors ∧ registry.discover.result = .error fault)) ∧
      ((ended = .error fault ∧ ∃ key line, fault.traced? = some (key, line) ∧
          configuration.property? key.name = none) ↔
        configuration.property? PropertyKey.contributors.name = none ∧
          configuration.streamsFault = none ∧ registry.discover.result = .error fault ∧
          ∃ name reason, fault = .componentLoad .mappingContributor name reason) := by
  intro ended
  have failed_iff : ended = .error fault ↔ configuration.fault? shared = some fault := by
    rw [← fault_build shared configuration counters, Fault.of?_eq_some_iff]
  refine ⟨fault.context_diagnostic, ?_, ?_, ?_⟩
  · intro failed key line traced
    have cases := Configuration.present_or_discovered served (failed_iff.mp failed) traced
    exact cases.imp id fun ⟨named, _, discovery, _⟩ => ⟨named, discovery⟩
  · rintro ⟨failed, key, line, traced, absent⟩
    rcases Configuration.present_or_discovered served (failed_iff.mp failed) traced with
      there | ⟨rfl, read, discovery, load⟩
    · rw [absent] at there
      cases there
    · exact ⟨absent, read, discovery, load⟩
  · rintro ⟨absent, read, discovery, name, reason, rfl⟩
    refine ⟨failed_iff.mpr ?_, .contributors, _, rfl, absent⟩
    have first : Fault.of? registry.loader.discover.result =
        some (.componentLoad .mappingContributor name reason) :=
      Fault.of?_eq_some_iff.mpr discovery
    simp only [Configuration.fault?, served, read, first, Option.none_or, Option.some_or]

/-- The second contributor on offer needs another one that is missing, and reports that as its own
failure. There are properties, but no list of contributors. -/
theorem traced_absent_of_two_offers :
    let fault : Fault := .componentLoad .mappingContributor "stock" "not deployed"
    let registry := Component.Registry.empty
      |>.registerContributor "items" ⟨"Items", .ok ⟨"Items", []⟩⟩ true
      |>.registerContributor "orders" ⟨"Orders", .error fault⟩ true
    let configuration : Configuration := {
      loader := some registry.loader
      properties := .ofList [(PropertyKey.scriptEvaluators.name, "js")] }
    configuration.loader.getD Component.Registry.shared.loader = registry.loader ∧
      ((build Component.Registry.shared.loader configuration).run {}).result = .error fault ∧
      ∃ key line, fault.traced? = some (key, line) ∧ configuration.property? key.name = none := by
  intro fault registry configuration
  have served : configuration.loader.getD Component.Registry.shared.loader = registry.loader := rfl
  obtain ⟨_, _, absent⟩ := traced_absent_iff_of_registry served {} fault
  exact ⟨served, absent.mpr ⟨rfl, rfl, by decide, _, _, rfl⟩⟩

/-- A contributor on offer cannot be made. There are no properties at all, and still the diagnostic
says that the contributor is named in one. -/
theorem diagnostic_names_missing_list :
    let registry := Component.Registry.empty.registerContributor "acme.Broken"
      ⟨"acme.Broken", .error (.mappingParse "orders.xml" "unexpected end of input")⟩ true
    let configuration : Configuration := { loader := some registry.loader }
    ∃ fault, ((build Component.Registry.shared.loader configuration).run {}).result =
        .error fault ∧
      fault.diagnostic.context =
        ["failed to parse mapping stream \x60orders.xml\x60: unexpected end of input",
          "named in " ++ Fault.ticked PropertyKey.contributors.name] ∧
      configuration.property? PropertyKey.contributors.name = none :=
  ⟨.componentLoad .mappingContributor "acme.Broken"
    "failed to parse mapping stream \x60orders.xml\x60: unexpected end of input", rfl, rfl, rfl⟩

end Factory

end BeanConstraints
