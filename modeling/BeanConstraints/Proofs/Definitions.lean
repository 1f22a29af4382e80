/-
# The definitions that a factory registers

A configuration leads to one list of definitions: those of the mappings handed
over, of the discovered contributors and of the named ones. Registration goes
through the list and stops at the first definition whose constraint has one
already. If none is repeated, what the registry says on a constraint depends on
the one definition of that constraint alone, and not on the order of the list.
-/

import BeanConstraints.Proofs.Outline
import BeanConstraints.Proofs.Table

namespace BeanConstraints

namespace Mapping

/-- What no step of a fold changes is not changed by the fold. -/
theorem view_foldl {α β γ : Type} (view : α → γ) (next : α → β → α)
    (kept : ∀ state item, view (next state item) = view state) (list : List β) (state : α) :
    view (list.foldl next state) = view state := by
  induction list generalizing state with
  | nil => rfl
  | cons item rest ih => rw [List.foldl_cons, ih, kept]

/-- Place all constraints of a bean. -/
def placeAll (mapping : Mapping) (bean : BeanPlacements) : Mapping :=
  mapping.place bean.typeName bean.placements

/-- A mapping that is filled takes up the definitions of the draft behind its own. -/
theorem definitions_fill (mapping : Mapping) (draft : MappingDraft) :
    (mapping.fill draft).definitions = mapping.definitions ++ draft.definitions := by
  have defined (definitions : List Definition) (mapping : Mapping) :
      (definitions.foldl define mapping).definitions = mapping.definitions ++ definitions := by
    induction definitions generalizing mapping with
    | nil => simp
    | cons definition rest ih => rw [List.foldl_cons, ih, define, List.append_assoc]; rfl
  rw [← defined]
  exact view_foldl Mapping.definitions placeAll (fun _ _ => rfl) draft.beans _

/-- Filling a mapping does not change where it comes from. -/
theorem origin_fill (mapping : Mapping) (draft : MappingDraft) :
    (mapping.fill draft).origin = mapping.origin := by
  have defined := view_foldl Mapping.origin define (fun _ _ => rfl) draft.definitions mapping
  exact (view_foldl Mapping.origin placeAll (fun _ _ => rfl) draft.beans _).trans defined

end Mapping

namespace Component

/-- The definitions that a contributor makes, in their order. -/
def Contributor.definitions (contributor : Contributor) : List Definition :=
  contributor.drafts.flatMap MappingDraft.definitions

/-- The contributors that a loader offers, none if discovery fails. -/
def Loader.offered (loader : Loader) : List (String × Contributor) :=
  match loader.discover.result with
  | .ok contributors => contributors
  | .error _ => []

/-- The contributor of a name, one that adds nothing if it cannot be loaded. -/
def Loader.loaded (loader : Loader) (name : String) : Contributor :=
  match (loader.contributor name).result with
  | .ok contributor => contributor
  | .error _ => ⟨"", []⟩

end Component

/-- Every definition that a configuration leads to, with the origin of its mapping: first those of
the mappings handed over, then those of the discovered contributors, then those of the named
ones. -/
def Configuration.definitions (configuration : Configuration) (loader : Component.Loader) :
    List (Origin × Definition) :=
  ((Mapping.distinct configuration.mappings).flatMap fun mapping =>
      mapping.definitions.map fun definition => (mapping.origin, definition)) ++
    (loader.offered.flatMap fun entry =>
      entry.2.definitions.map fun definition => (.discovered entry.1, definition)) ++
    configuration.contributorNames.flatMap fun name =>
      (loader.loaded name).definitions.map fun definition => (.propertyNamed name, definition)

namespace Bootstrap

theorem definitions_mappings (contributor : Component.Contributor) (origin : Origin) :
    (SealedMappings.mk (contributor.mappings origin)).definitions =
      contributor.definitions.map fun definition => (origin, definition) := by
  unfold SealedMappings.definitions Component.Contributor.mappings
    Component.Contributor.definitions
  rw [List.flatMap_map, List.map_flatMap]
  apply List.flatMap_congr
  intro draft _
  rw [Mapping.definitions_fill, Mapping.origin_fill, List.nil_append]

theorem definitions_added (origin : String → Origin)
    (contributors : List (String × Component.Contributor)) :
    (SealedMappings.mk (added origin contributors)).definitions =
      contributors.flatMap fun entry =>
        entry.2.definitions.map fun definition => (origin entry.1, definition) := by
  have each := fun (entry : String × Component.Contributor) (_ : entry ∈ contributors) =>
    definitions_mappings entry.2 (origin entry.1)
  unfold SealedMappings.definitions added at *
  rw [List.flatMap_assoc]
  exact List.flatMap_congr each

/-- Names that all load stand for the contributors that they load. -/
theorem named_eq_loaded {loader : Component.Loader} {names : List String}
    {named : List (String × Component.Contributor)} (loads : names.mapM loader.named = .ok named) :
    named = names.map fun name => (name, loader.loaded name) := by
  induction names generalizing named with
  | nil =>
      cases loads
      rfl
  | cons name rest ih =>
      rw [List.mapM_cons] at loads
      obtain ⟨entry, first, loads⟩ := ok_of_bind loads
      obtain ⟨others, later, loads⟩ := ok_of_bind loads
      cases loads
      rw [List.map_cons, ih later]
      unfold Component.Loader.named at first
      split at first
      · cases first
      · unfold Component.Loader.loaded
        cases made : (loader.contributor name).result with
        | error fault =>
            rw [made] at first
            cases first
        | ok contributor =>
            rw [made] at first
            cases first
            rfl

end Bootstrap

/-- What is collected holds the definitions that the configuration leads to. -/
theorem definitions_of_contributions {loader : Component.Loader} {configuration : Configuration}
    {contents : List Mapping}
    (collected : Bootstrap.contributions loader configuration.mappings
      configuration.contributorNames = .ok contents) :
    (SealedMappings.mk contents).definitions = configuration.definitions loader := by
  unfold Bootstrap.contributions at collected
  obtain ⟨discovered, offered, collected⟩ := ok_of_bind collected
  obtain ⟨named, loads, collected⟩ := ok_of_bind collected
  cases collected
  have apart (first second : List Mapping) : (SealedMappings.mk (first ++ second)).definitions =
      (SealedMappings.mk first).definitions ++ (SealedMappings.mk second).definitions :=
    List.flatMap_append
  have handedOver : (SealedMappings.mk
      ((Mapping.distinct configuration.mappings).map Mapping.anonymous)).definitions =
        (Mapping.distinct configuration.mappings).flatMap fun mapping =>
          mapping.definitions.map fun definition => (mapping.origin, definition) :=
    List.flatMap_map _ _ _
  have offers : loader.offered = discovered := by
    rw [Component.Loader.offered, offered]
  unfold Configuration.definitions
  rw [apart, apart, handedOver, Bootstrap.definitions_added, Bootstrap.definitions_added, offers,
    Bootstrap.named_eq_loaded loads, List.flatMap_map]

namespace Registration

/-- The first definition whose constraint has a definition at an earlier place. -/
def firstRepeated (definitions : List (Origin × Definition)) : Option (Origin × Definition) :=
  (definitions.zipIdx.find? fun placed =>
    (definitions.take placed.2).any fun earlier =>
      earlier.2.constraint == placed.1.2.constraint).map Prod.fst

/-- The fault on a repeated definition blames the mapping that repeats it. -/
def repetition (entry : Origin × Definition) : Fault :=
  .duplicateDefinition entry.2.constraint entry.1

/-- Among definitions after others, registration stops at the first that repeats one of those
before it. -/
theorem fault_fold (registry : Registry) (seen : List Constraint)
    (before rest : List (Origin × Definition))
    (known : ∀ constraint, seen.contains constraint =
      before.any fun earlier => earlier.2.constraint == constraint) :
    (fold seen registry rest).fault =
      ((rest.zipIdx before.length).find? fun placed =>
        ((before ++ rest).take placed.2).any fun earlier =>
          earlier.2.constraint == placed.1.2.constraint).map fun placed => repetition placed.1 := by
  induction rest generalizing seen before registry with
  | nil => rfl
  | cons entry rest ih =>
      obtain ⟨origin, definition⟩ := entry
      rw [List.zipIdx_cons, List.find?_cons, List.take_left, ← known, fold]
      cases repeats : seen.contains definition.constraint with
      | true => rfl
      | false =>
          have extended (constraint : Constraint) :
              (definition.constraint :: seen).contains constraint =
                (before ++ [(origin, definition)]).any fun earlier =>
                  earlier.2.constraint == constraint := by
            rw [List.contains_cons, List.any_append, known, Bool.or_comm, Bool.beq_comm,
              List.any_cons, List.any_nil, Bool.or_false]
          have later := ih
            (registry.put definition.constraint definition.checkers definition.keepExisting) _ _
            extended
          rw [List.length_append, List.append_assoc] at later
          exact later

/-- Registration fails with the first repetition, and if there is none it does not fail. -/
theorem fault_fold_nil (registry : Registry) (definitions : List (Origin × Definition)) :
    (fold [] registry definitions).fault = (firstRepeated definitions).map repetition := by
  rw [firstRepeated, fault_fold registry [] [] definitions fun _ => rfl, Option.map_map]
  rfl

/-- Registration does not fail exactly if no constraint is defined twice or was seen before. -/
theorem fault_fold_eq_none_iff {seen : List Constraint} {registry : Registry}
    {definitions : List (Origin × Definition)} :
    (fold seen registry definitions).fault = none ↔
      (definitions.map fun entry => entry.2.constraint).Nodup ∧
        ∀ entry ∈ definitions, entry.2.constraint ∉ seen := by
  induction definitions generalizing seen registry with
  | nil => simp [fold]
  | cons entry rest ih =>
      obtain ⟨origin, definition⟩ := entry
      rw [fold, List.map_cons, List.nodup_cons, List.forall_mem_cons]
      by_cases repeats : definition.constraint ∈ seen
      · simp [repeats]
      · rw [if_neg (by simpa using repeats)]
        rw [ih]
        simp only [List.mem_cons, List.mem_map, not_or, repeats, not_false_eq_true, true_and]
        refine ⟨?_, ?_⟩
        · rintro ⟨apart, unlike⟩
          refine ⟨⟨?_, apart⟩, fun later listed => (unlike later listed).2⟩
          rintro ⟨later, listed, same⟩
          exact (unlike later listed).1 same
        · rintro ⟨⟨fresh, apart⟩, unseen⟩
          refine ⟨apart, fun later listed => ⟨fun same => fresh ⟨later, listed, same⟩, ?_⟩⟩
          exact unseen later listed

/-- Nothing is repeated exactly if every constraint is defined once. -/
theorem firstRepeated_eq_none_iff {definitions : List (Origin × Definition)} :
    firstRepeated definitions = none ↔
      (definitions.map fun entry => entry.2.constraint).Nodup := by
  rw [← Option.map_eq_none_iff (f := repetition), ← fault_fold_nil .empty, fault_fold_eq_none_iff]
  exact and_iff_left fun _ _ => List.not_mem_nil

/-- What counts as the first repetition is a definition of a constraint that has at least two. -/
theorem two_le_count_of_firstRepeated {definitions : List (Origin × Definition)}
    {entry : Origin × Definition} (first : firstRepeated definitions = some entry) :
    entry ∈ definitions ∧
      2 ≤ (definitions.map fun entry => entry.2.constraint).count entry.2.constraint := by
  obtain ⟨⟨found, place⟩, search, rfl⟩ := Option.map_eq_some_iff.mp first
  have there := List.mem_zipIdx_iff_getElem?.mp (List.mem_of_find?_eq_some search)
  have repeats := List.find?_some search
  obtain ⟨earlier, before, same⟩ := List.any_eq_true.mp repeats
  obtain ⟨inside, at_place⟩ := List.getElem?_eq_some_iff.mp there
  refine ⟨at_place ▸ List.getElem_mem inside, ?_⟩
  -- One definition stands before the place, the other one at it.
  have front : found.2.constraint ∈
      (definitions.take place).map fun entry => entry.2.constraint :=
    List.mem_map.mpr ⟨earlier, before, beq_iff_eq.mp same⟩
  have back : found.2.constraint ∈
      (definitions.drop place).map fun entry => entry.2.constraint := by
    rw [List.drop_eq_getElem_cons inside, at_place]
    exact .head _
  rw [← List.take_append_drop place definitions, List.map_append, List.count_append]
  exact Nat.add_le_add (List.count_pos_iff.mpr front) (List.count_pos_iff.mpr back)

/-- The definition of a constraint, the first if there are several. -/
def definition? (definitions : List (Origin × Definition)) (constraint : Constraint) :
    Option Definition :=
  (definitions.find? fun entry => entry.2.constraint == constraint).map Prod.snd

/-- If nothing was repeated, the registry says on a constraint what its definition says, behind the
checkers that were to stay, and what it said before if there is no definition. -/
theorem get?_fold {seen : List Constraint} {registry : Registry}
    {definitions : List (Origin × Definition)}
    (unrepeated : (fold seen registry definitions).fault = none) (constraint : Constraint) :
    (fold seen registry definitions).registry.checkers.get? constraint =
      match definition? definitions constraint with
      | some definition =>
          some ((if definition.keepExisting then registry.checkersOf constraint else []) ++
            definition.checkers)
      | none => registry.checkers.get? constraint := by
  induction definitions generalizing seen registry with
  | nil => rfl
  | cons entry rest ih =>
      obtain ⟨origin, definition⟩ := entry
      rw [fold] at unrepeated ⊢
      split at unrepeated
      · cases unrepeated
      · rename_i new
        rw [if_neg new]
        change (fold _ _ rest).registry.checkers.get? constraint = _
        rw [ih unrepeated]
        by_cases same : definition.constraint = constraint
        · subst same
          have alone : definition? rest definition.constraint = none := by
            refine Option.map_eq_none_iff.mpr (List.find?_eq_none.mpr fun later listed again => ?_)
            have apart := (fault_fold_eq_none_iff.mp unrepeated).2 later listed
            exact apart (List.mem_cons.mpr (.inl (beq_iff_eq.mp again)))
          have found : definition? ((origin, definition) :: rest) definition.constraint =
              some definition := by
            simp [definition?]
          rw [alone, found]
          exact (Registry.get?_put _ _ _ _ _).trans (if_pos rfl)
        · have passed : definition? ((origin, definition) :: rest) constraint =
              definition? rest constraint := by
            simp [definition?, same]
          have other : constraint ≠ definition.constraint := fun equal => same equal.symm
          rw [passed, Registry.checkersOf_put_of_ne _ _ _ other]
          cases definition? rest constraint with
          | some later => rfl
          | none => exact (Registry.get?_put _ _ _ _ _).trans (if_neg other)

/-- If no constraint is defined twice, the order of definitions does not matter for what the
definition of a constraint is. -/
theorem definition?_perm {first second : List (Origin × Definition)}
    (reordered : first.Perm second)
    (single : (first.map fun entry => entry.2.constraint).Nodup) (constraint : Constraint) :
    definition? first constraint = definition? second constraint := by
  unfold definition?
  congr 1
  cases found : second.find? fun entry => entry.2.constraint == constraint with
  | none =>
      refine List.find?_eq_none.mpr fun entry listed => ?_
      exact List.find?_eq_none.mp found entry (reordered.mem_iff.mp listed)
  | some entry =>
      have listed := reordered.mem_iff.mpr (List.mem_of_find?_eq_some found)
      have named := List.find?_some found
      cases search : first.find? fun entry => entry.2.constraint == constraint with
      | none => exact absurd named (List.find?_eq_none.mp search entry listed)
      | some other =>
          have alike := List.find?_some search
          have same : other.2.constraint = entry.2.constraint :=
            (beq_iff_eq.mp alike).trans (beq_iff_eq.mp named).symm
          exact congrArg some
            (List.inj_on_of_nodup_map single (List.mem_of_find?_eq_some search) listed same)

end Registration

/-- Definitions in another order lead to the same registry, if both orders lead to one. -/
theorem Registry.extended_perm {first second : SealedMappings} {registry other : Registry}
    (reordered : first.definitions.Perm second.definitions)
    (one : extended first = .ok registry) (two : extended second = .ok other) :
    registry = other := by
  have result (sealed : SealedMappings) (registry : Registry)
      (built : extended sealed = .ok registry) :
      (Registration.fold [] standard sealed.definitions).fault = none ∧
        (Registration.fold [] standard sealed.definitions).registry = registry := by
    unfold extended at built
    split at built
    · cases built
    · rename_i unrepeated
      exact ⟨unrepeated, Except.ok.inj built⟩
  obtain ⟨firstUnrepeated, rfl⟩ := result first registry one
  obtain ⟨secondUnrepeated, rfl⟩ := result second other two
  have single := (Registration.fault_fold_eq_none_iff.mp firstUnrepeated).1
  refine congrArg Registry.mk (Table.ext_get? fun constraint => ?_)
  rw [Registration.get?_fold firstUnrepeated, Registration.get?_fold secondUnrepeated,
    Registration.definition?_perm reordered single]

end BeanConstraints
