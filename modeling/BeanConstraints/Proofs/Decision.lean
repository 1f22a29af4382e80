/-
# What stands in the way of a factory

Many things can be wrong with a configuration at once, and building reports one of
them. Which one is said here as a list of conditions in their precedence, each in
terms of the configuration and the loader alone: documents, discovery, named
contributors, repeated definitions, flags, script evaluators. If none of them
applies, there is a factory.
-/

import BeanConstraints.Proofs.Definitions

namespace BeanConstraints

namespace Fault

/-- The fault that a result ends with, if it does. -/
def of? {α : Type} : Except Fault α → Option Fault
  | .error fault => some fault
  | .ok _ => none

variable {α β : Type}

/-- The result of a step that has a fault is the fault. -/
theorem of?_eq_some_iff {result : Except Fault α} {fault : Fault} :
    of? result = some fault ↔ result = .error fault := by
  cases result <;> simp [of?]

@[simp]
theorem of?_map (result : Except Fault α) (f : α → β) : of? (result.map f) = of? result := by
  cases result <;> rfl

@[simp]
theorem of?_mapError (result : Except Fault α) (change : Fault → Fault) :
    of? (result.mapError change) = (of? result).map change := by
  cases result <;> rfl

/-- The first fault of two steps, if that of the second one does not depend on the result of the
first. -/
theorem of?_bind {first : Except Fault α} {next : α → Except Fault β} {later : Option Fault}
    (second : ∀ value, first = .ok value → of? (next value) = later) :
    of? (first >>= next) = (of? first).or later := by
  cases first with
  | error fault => rfl
  | ok value => exact second value rfl

/-- If the second step cannot fail, the fault is that of the first. -/
theorem of?_finish {first : Except Fault α} {next : α → Except Fault β}
    (second : ∀ value, of? (next value) = none) : of? (first >>= next) = of? first := by
  rw [of?_bind fun value _ => second value, Option.or_none]

/-- A run through a list ends with the fault of the first item that has one. -/
theorem of?_mapM (f : α → Except Fault β) (list : List α) :
    of? (list.mapM f) = list.findSome? fun item => of? (f item) := by
  induction list with
  | nil => rfl
  | cons item rest ih =>
      rw [List.mapM_cons, List.findSome?_cons]
      cases f item with
      | error fault => rfl
      | ok value =>
          change of? (rest.mapM f >>= fun others => pure (value :: others)) = _
          rw [of?_finish fun _ => rfl, ih]
          rfl

/-- A result without its value is its fault or its absence. -/
theorem map_unit_eq (result : Except Fault α) :
    result.map (fun _ => ()) = match of? result with
      | some fault => .error fault
      | none => .ok () := by
  cases result <;> rfl

end Fault

/-- What is wrong with a name in the list of contributors: it is empty, or loading it fails. -/
def Component.Loader.entryFault (loader : Component.Loader) (name : String) : Option Fault :=
  if name.isEmpty then
    some (.componentLoad .mappingContributor "" "empty entry in the contributor list")
  else Fault.of? (loader.contributor name).result

namespace Configuration

/-- What is wrong with a mapping document. -/
def streamFault (parser : MappingParser) (stream : MappingStream) : Option Fault :=
  match parser stream with
  | .error reasons => some (.mappingParse stream.name (": ".intercalate reasons))
  | .ok _ => none

/-- What is wrong with the mapping documents: nobody can parse them, or the first that cannot be
parsed. -/
def streamsFault (configuration : Configuration) : Option Fault :=
  match configuration.parser with
  | some parser => configuration.streams.findSome? (streamFault parser)
  | none =>
      if configuration.streams = [] then none
      else some (.missingParser configuration.streams.length)

/-- What is wrong with the flags: fail-fast is on in code, and a property is there that says
anything but that it is on. -/
def flagsFault (configuration : Configuration) : Option Fault :=
  if configuration.flags.failFast &&
      (configuration.property? PropertyKey.failFast.name).any (fun value => !Property.isTrue value)
  then some .inconsistentFailFast
  else none

/-- What is wrong with the script evaluators: none are given, and those that a property names
cannot be had. -/
def scriptsFault (configuration : Configuration) (loader : Component.Loader) : Option Fault :=
  match configuration.scripts, configuration.property? PropertyKey.scriptEvaluators.name with
  | none, some name =>
      (Fault.of? (loader.scriptEvaluators name).result).map (Fault.scriptEvaluators name)
  | _, _ => none

/-- What is wrong with a configuration, the first that is. -/
def fault? (configuration : Configuration) (shared : Component.Loader) : Option Fault :=
  let loader := configuration.loader.getD shared
  configuration.streamsFault
    |>.or (Fault.of? loader.discover.result)
    |>.or (configuration.contributorNames.findSome? loader.entryFault)
    |>.or ((Registration.firstRepeated (configuration.definitions loader)).map
      Registration.repetition)
    |>.or configuration.flagsFault
    |>.or (configuration.scriptsFault loader)

variable (configuration : Configuration) (loader : Component.Loader)

theorem of?_parsed (parser : MappingParser) (stream : MappingStream) :
    Fault.of? (Metadata.Documents.parsed parser stream) = streamFault parser stream := by
  unfold Metadata.Documents.parsed streamFault
  cases parser stream <;> rfl

theorem of?_documents : Fault.of? configuration.documents = configuration.streamsFault := by
  unfold documents streamsFault
  cases configuration.streams with
  | nil => cases configuration.parser <;> rfl
  | cons stream rest =>
      cases configuration.parser with
      | none => rfl
      | some parser =>
          simp only [Fault.of?_map, Fault.of?_mapM, of?_parsed]

theorem of?_named (name : String) : Fault.of? (loader.named name) = loader.entryFault name := by
  unfold Component.Loader.named Component.Loader.entryFault
  split
  · rename_i empty
    rw [String.isEmpty_iff.mp empty]
    rfl
  · rw [Fault.of?_map]

theorem of?_contributions :
    Fault.of? (Bootstrap.contributions loader configuration.mappings
        configuration.contributorNames) =
      (Fault.of? loader.discover.result).or
        (configuration.contributorNames.findSome? loader.entryFault) := by
  unfold Bootstrap.contributions
  refine Fault.of?_bind fun discovered _ => ?_
  rw [Fault.of?_finish fun _ => rfl, Fault.of?_mapM]
  exact congrArg (fun f => configuration.contributorNames.findSome? f)
    (funext (of?_named loader))

theorem of?_extended (sealed : SealedMappings) :
    Fault.of? (Registry.extended sealed) =
      (Registration.firstRepeated sealed.definitions).map Registration.repetition := by
  rw [Registry.extended, Registry.register, ← Registration.fault_fold_nil Registry.standard]
  cases (Registration.fold [] Registry.standard sealed.definitions).fault <;> rfl

theorem of?_resolve : Fault.of? configuration.resolve = configuration.flagsFault := by
  unfold resolve Flags.resolve Properties.flag? flagsFault property?
  cases configuration.flags.failFast with
  | false => rfl
  | true =>
      cases configuration.properties.get? PropertyKey.failFast.name with
      | none => rfl
      | some value =>
          simp only [Option.map_some, Option.any_some, Bool.true_and]
          cases Property.isTrue value <;> rfl

theorem of?_chosenScripts :
    Fault.of? (configuration.chosenScripts loader) = configuration.scriptsFault loader := by
  unfold chosenScripts scriptsFault
  cases configuration.scripts with
  | some scripts => rfl
  | none =>
      cases configuration.property? PropertyKey.scriptEvaluators.name with
      | none => rfl
      | some name => exact Fault.of?_mapError _ _

/-- The outline is missing for the first reason that there is. -/
theorem of?_outlined (shared : Component.Loader) :
    Fault.of? (Factory.outlined shared configuration) = configuration.fault? shared := by
  simp only [Factory.outlined, fault?, Option.or_assoc]
  rw [← of?_documents]
  refine Fault.of?_bind fun documents _ => ?_
  rw [← Option.or_assoc, ← of?_contributions]
  refine Fault.of?_bind fun contents collected => ?_
  rw [← definitions_of_contributions collected, ← of?_extended]
  refine Fault.of?_bind fun registry _ => ?_
  rw [← of?_resolve]
  refine Fault.of?_bind fun flags _ => ?_
  rw [← of?_chosenScripts]
  exact Fault.of?_finish fun scripts => rfl

end Configuration

namespace Factory

/-- Building fails for the first reason that there is. -/
theorem fault_build (shared : Component.Loader) (configuration : Configuration)
    (counters : Counters) :
    Fault.of? ((build shared configuration).run counters).result = configuration.fault? shared := by
  rw [← Configuration.of?_outlined, ← yields_build shared configuration counters, Fault.of?_map]

/-- Whatever the configuration, the loader and the identities are, building ends with the first
fault of the configuration in the order of precedence, and if there is none, with a factory. -/
theorem result_build (shared : Component.Loader) (configuration : Configuration)
    (counters : Counters) :
    ((build shared configuration).run counters).result.map (fun _ => ()) =
      match configuration.fault? shared with
      | some fault => .error fault
      | none => .ok () := by
  rw [Fault.map_unit_eq, fault_build]

/-- Documents that nobody can parse are reported, whatever the loader does, and not the flags that
contradict each other. -/
example (shared : Component.Loader) :
    Configuration.fault?
      { streams := [⟨"orders.xml", ""⟩]
        flags := { failFast := true }
        properties := .ofList [(PropertyKey.failFast.name, "false")] } shared =
      some (.missingParser 1) := rfl

end Factory

end BeanConstraints
