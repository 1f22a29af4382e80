/-
# What registration leaves behind

Registration goes through the definitions of all mappings and puts one after the
other into the registry it was given, whatever is in there already. It stops at the
first definition of a constraint that has one already, so a failed registration
leaves the definitions before that place in the registry and nothing else, and it
blames the mapping that holds the place.
-/

import BeanConstraints.Proofs.Definitions
import Mathlib.Data.List.Induction
import Mathlib.Order.Bounds.Basic

namespace BeanConstraints

/-- The registry with the checkers of one more definition. -/
def Registry.extend (registry : Registry) (definition : Definition) : Registry :=
  registry.put definition.constraint definition.checkers definition.keepExisting

/-- The definitions of sealed mappings without their origins. -/
def SealedMappings.all (sealed : SealedMappings) : List Definition :=
  sealed.mappings.flatMap Mapping.definitions

theorem SealedMappings.all_eq (sealed : SealedMappings) :
    sealed.all = sealed.definitions.map Prod.snd := by
  simp [all, definitions, List.map_flatMap, Function.comp_def]

theorem SealedMappings.contributed_eq (sealed : SealedMappings) :
    sealed.contributed = sealed.all.map Definition.constraint := by
  simp [contributed, all_eq]

namespace Registration

/-- The constraint at a place stands at an earlier one as well. -/
def Repeats (constraints : List Constraint) (place : Nat) : Prop :=
  ∃ constraint ∈ constraints.take place, constraints[place]? = some constraint

/-- A constraint that is met again after constraints that are all different is at the least place
of a repetition. -/
theorem isLeast_repeats {before : List Constraint} {constraint : Constraint}
    (apart : before.Nodup) (again : constraint ∈ before) (after : List Constraint) :
    IsLeast {place | Repeats (before ++ constraint :: after) place} before.length := by
  refine ⟨⟨constraint, by simpa using again, by simp⟩, ?_⟩
  rintro place ⟨other, earlier, there⟩
  by_contra early
  have inside : place < before.length := Nat.lt_of_not_le early
  rw [List.getElem?_append_left inside] at there
  rw [List.take_append_of_le_length (Nat.le_of_lt inside)] at earlier
  obtain ⟨index, bound, found⟩ := List.mem_take_iff_getElem.mp earlier
  obtain ⟨_, same⟩ := List.getElem?_eq_some_iff.mp there
  have equal : index = place := apart.getElem_inj_iff.mp (found.trans same.symm)
  omega

/-- Definitions that repeat a constraint have a first one that does. -/
theorem exists_first_repetition {definitions : List (Origin × Definition)}
    (repeated : ¬ (definitions.map fun entry => entry.2.constraint).Nodup) :
    ∃ before entry after, definitions = before ++ entry :: after ∧
      (before.map fun earlier => earlier.2.constraint).Nodup ∧
      entry.2.constraint ∈ before.map fun earlier => earlier.2.constraint := by
  induction definitions using List.reverseRecOn with
  | nil => simp at repeated
  | append_singleton earlier entry ih =>
      by_cases apart : (earlier.map fun entry => entry.2.constraint).Nodup
      · refine ⟨earlier, entry, [], rfl, apart, ?_⟩
        by_contra new
        refine repeated ?_
        rw [List.map_append, List.map_singleton, ← List.concat_eq_append]
        exact apart.concat new
      · obtain ⟨before, first, after, rfl, fresh, again⟩ := ih apart
        exact ⟨before, first, after ++ [entry], by simp, fresh, again⟩

/-- The mapping that holds a place in a list of definitions, and the place in that mapping. -/
theorem exists_holder {mappings : List Mapping} {before after : List (Origin × Definition)}
    {entry : Origin × Definition}
    (placed : (SealedMappings.mk mappings).definitions = before ++ entry :: after) :
    ∃ front mapping back earlier definition later, mappings = front ++ mapping :: back ∧
      mapping.definitions = earlier ++ definition :: later ∧
      entry = (mapping.origin, definition) ∧
      before.map Prod.snd = front.flatMap Mapping.definitions ++ earlier := by
  induction mappings generalizing before with
  | nil => simp [SealedMappings.definitions] at placed
  | cons mapping rest ih =>
      have split : (mapping.definitions.map fun definition => (mapping.origin, definition)) ++
          (SealedMappings.mk rest).definitions = before ++ entry :: after := placed
      -- The place lies in the first mapping or behind all of its definitions.
      rcases List.append_eq_append_iff.mp split with ⟨others, whole, later⟩ | ⟨others, whole, later⟩
      · obtain ⟨front, holder, back, earlier, definition, behind, rfl, held, named, counted⟩ :=
          ih later
        refine ⟨mapping :: front, holder, back, earlier, definition, behind, rfl, held, named, ?_⟩
        simp [whole, counted, Function.comp_def]
      · cases others with
        | nil =>
            obtain ⟨front, holder, back, earlier, definition, behind, rfl, held, named, counted⟩ :=
              ih (show (SealedMappings.mk rest).definitions = [] ++ entry :: after from later.symm)
            refine ⟨mapping :: front, holder, back, earlier, definition, behind, rfl, held, named,
              ?_⟩
            have first : before.map Prod.snd = mapping.definitions := by
              have seconds := congrArg (List.map Prod.snd) whole
              simpa [Function.comp_def] using seconds.symm
            simp [first, ← counted]
        | cons first others =>
            obtain ⟨rfl, -⟩ := List.cons.inj later
            obtain ⟨earlier, rest', made, rfl, here⟩ := List.map_eq_append_iff.mp whole
            obtain ⟨definition, behind, rfl, rfl, -⟩ := List.map_eq_cons_iff.mp here
            exact ⟨[], mapping, rest, earlier, definition, behind, rfl, made, rfl,
              by simp [Function.comp_def]⟩

/-- If no constraint is defined twice, the definition of a constraint is the one that there is. -/
theorem definition?_of_mem {definitions : List (Origin × Definition)}
    (apart : (definitions.map fun entry => entry.2.constraint).Nodup)
    {entry : Origin × Definition} (listed : entry ∈ definitions) :
    definition? definitions entry.2.constraint = some entry.2 := by
  unfold definition?
  cases found : definitions.find? fun other => other.2.constraint == entry.2.constraint with
  | none => simpa using List.find?_eq_none.mp found entry listed
  | some other =>
      have alike : other.2.constraint = entry.2.constraint := by
        simpa using List.find?_some found
      have same := List.inj_on_of_nodup_map apart (List.mem_of_find?_eq_some found) listed alike
      simp [same]

theorem definition?_of_not_mem {definitions : List (Origin × Definition)} {constraint : Constraint}
    (other : constraint ∉ definitions.map fun entry => entry.2.constraint) :
    definition? definitions constraint = none := by
  refine Option.map_eq_none_iff.mpr (List.find?_eq_none.mpr fun entry listed named => other ?_)
  exact List.mem_map.mpr ⟨entry, listed, by simpa using named⟩

/-- Definitions that repeat nothing are put into the registry, and registration goes on behind
them. -/
theorem fold_append {seen : List Constraint} {registry : Registry}
    {before : List (Origin × Definition)} (unrepeated : (fold seen registry before).fault = none)
    (rest : List (Origin × Definition)) :
    let known := (before.map fun entry => entry.2.constraint).reverse ++ seen
    let later := fold known ((before.map Prod.snd).foldl Registry.extend registry) rest
    (fold seen registry (before ++ rest)).fault = later.fault ∧
      (fold seen registry (before ++ rest)).registry = later.registry := by
  induction before generalizing seen registry with
  | nil => exact ⟨rfl, rfl⟩
  | cons entry others ih =>
      obtain ⟨origin, definition⟩ := entry
      rw [fold] at unrepeated
      split at unrepeated
      · cases unrepeated
      · rename_i new
        have later := ih unrepeated
        simp only [List.cons_append, List.map_cons, List.reverse_cons, List.append_assoc,
          List.nil_append, List.foldl_cons]
        rw [fold, if_neg new]
        exact later

/-- Registration ends well with all definitions in the registry if none is repeated. -/
theorem registry_register {registry : Registry} {sealed : SealedMappings}
    (apart : sealed.contributed.Nodup) :
    (registry.register sealed).registry = sealed.all.foldl Registry.extend registry := by
  have unrepeated : (fold [] registry sealed.definitions).fault = none :=
    fault_fold_eq_none_iff.mpr ⟨apart, fun _ _ => List.not_mem_nil⟩
  have whole := (fold_append unrepeated []).2
  rw [List.append_nil, ← sealed.all_eq] at whole
  exact whole

/-- At a definition that repeats one before it, registration stops with what it has. -/
theorem register_repeated (registry : Registry) {sealed : SealedMappings}
    {before after : List (Origin × Definition)} {entry : Origin × Definition}
    (split : sealed.definitions = before ++ entry :: after)
    (apart : (before.map fun earlier => earlier.2.constraint).Nodup)
    (again : entry.2.constraint ∈ before.map fun earlier => earlier.2.constraint) :
    (registry.register sealed).fault = some (repetition entry) ∧
      (registry.register sealed).registry =
        (before.map Prod.snd).foldl Registry.extend registry := by
  have unrepeated : (fold [] registry before).fault = none :=
    fault_fold_eq_none_iff.mpr ⟨apart, fun _ _ => List.not_mem_nil⟩
  have stopped := fold_append unrepeated (entry :: after)
  rw [← split] at stopped
  obtain ⟨origin, definition⟩ := entry
  have known : definition.constraint ∈ before.map fun earlier => earlier.2.constraint := again
  simp only [fold, List.append_nil, List.contains_reverse, List.contains_iff_mem, known,
    if_true] at stopped
  exact stopped

/-- A registry that was given and sealed mappings that are registered with it. If no constraint is
defined twice, every constraint that is contributed to has the checkers of its definition, behind
those it had if they are to stay, and every other one is as it was. Otherwise registration fails
at the least place whose constraint was defined before, blames the mapping that holds the place,
and has put exactly the definitions before it into the registry. -/
theorem register_sealed (registry : Registry) (sealed : SealedMappings) :
    let outcome := registry.register sealed
    sealed.contributed = sealed.all.map Definition.constraint ∧
      (outcome.fault = none ↔ sealed.contributed.Nodup) ∧
      (sealed.contributed.Nodup →
        outcome.registry = sealed.all.foldl Registry.extend registry ∧
        (∀ definition ∈ sealed.all, outcome.registry.checkers.get? definition.constraint =
          some ((if definition.keepExisting then registry.checkersOf definition.constraint else [])
            ++ definition.checkers)) ∧
        ∀ constraint ∉ sealed.contributed,
          outcome.registry.checkers.get? constraint = registry.checkers.get? constraint) ∧
      (¬ sealed.contributed.Nodup → ∃ front mapping back earlier definition later,
        sealed.mappings = front ++ mapping :: back ∧
        mapping.definitions = earlier ++ definition :: later ∧
        let before := front.flatMap Mapping.definitions ++ earlier
        IsLeast {place | Repeats sealed.contributed place} before.length ∧
        outcome.fault = some (.duplicateDefinition definition.constraint mapping.origin) ∧
        outcome.registry = before.foldl Registry.extend registry) := by
  intro outcome
  have ended : outcome.fault = none ↔ sealed.contributed.Nodup :=
    fault_fold_eq_none_iff.trans (and_iff_left fun _ _ => List.not_mem_nil)
  refine ⟨sealed.contributed_eq, ended, fun apart => ?_, fun repeated => ?_⟩
  · have said := get?_fold (ended.mpr apart)
    refine ⟨registry_register apart, fun definition listed => ?_, fun constraint other => ?_⟩
    · rw [sealed.all_eq] at listed
      obtain ⟨entry, placed, rfl⟩ := List.mem_map.mp listed
      exact (said _).trans (by rw [definition?_of_mem apart placed])
    · exact (said constraint).trans (by rw [definition?_of_not_mem other])
  · obtain ⟨before, entry, after, split, apart, again⟩ := exists_first_repetition repeated
    obtain ⟨front, mapping, back, earlier, definition, later, whole, made, rfl, counted⟩ :=
      exists_holder split
    obtain ⟨failed, left⟩ := register_repeated registry split apart again
    have least := isLeast_repeats apart again (after.map fun entry => entry.2.constraint)
    have contributed : sealed.contributed =
        (before.map fun entry => entry.2.constraint) ++ definition.constraint ::
          after.map fun entry => entry.2.constraint := by
      rw [SealedMappings.contributed, split, List.map_append, List.map_cons]
    have place : (before.map fun entry => entry.2.constraint).length =
        (front.flatMap Mapping.definitions ++ earlier).length := by
      rw [← counted, List.length_map, List.length_map]
    rw [← contributed, place] at least
    exact ⟨front, mapping, back, earlier, definition, later, whole, made, least, failed,
      counted ▸ left⟩

end Registration

end BeanConstraints
