/-
# Metadata as a value

The metadata of a bean type, without the journal of how it was built: every
placement is resolved on its own, and one that cannot be named leaves no metadata
at all. So the order of placements shows in the order of constraints only, and the
registry shows in the checkers only, never in which constraints hold or in what
they are called.
-/

import BeanConstraints.Metadata.Bean

namespace BeanConstraints.Metadata

/-- The constraint as it is when no checker is active. -/
def MetaConstraint.withoutCheckers (held : MetaConstraint) : MetaConstraint :=
  { held with checkers := [] }

/-- The metadata as it is when no checker is active: the same constraints on the same elements,
under the same names and from the same kinds of source. -/
def Bean.withoutCheckers (bean : Bean) : Bean :=
  { bean with constraints := bean.constraints.map MetaConstraint.withoutCheckers }

section

variable (naming : ParameterNaming) (registry : Registry) (typeName : String)

/-- What one placement comes to. -/
def resolved (placed : String × Placement) : Option MetaConstraint :=
  (resolve naming registry typeName placed.1 placed.2).2

/-- Placements are resolved one by one, each on its own. -/
theorem resolveAll_result (placements : List (String × Placement)) :
    (resolveAll naming registry typeName placements).2 =
      placements.mapM (resolved naming registry typeName) := by
  induction placements with
  | nil => rfl
  | cons placed rest ih =>
      obtain ⟨origin, placement⟩ := placed
      rw [resolveAll, List.mapM_cons, ← ih]
      unfold resolved
      rcases resolve naming registry typeName origin placement with ⟨journal, _ | first⟩
      · rfl
      · simp only [Option.bind_eq_bind, Option.bind_some]
        cases (resolveAll naming registry typeName rest).2 <;> rfl

/-- The metadata of a bean type consists of what its placements come to. -/
theorem build_result (sources : List Source) :
    (Bean.build naming registry sources typeName).2 =
      ((placementsOn sources typeName).mapM (resolved naming registry typeName)).map
        (Bean.mk typeName) := by
  rw [← resolveAll_result]
  unfold Bean.build
  rcases resolveAll naming registry typeName (placementsOn sources typeName) with
    ⟨journal, _ | constraints⟩ <;> rfl

end

@[simp]
theorem checkersOf_empty (constraint : Constraint) :
    Registry.empty.checkersOf constraint = [] := rfl

/-- The registry decides on the checkers of a placement and on nothing else. -/
theorem resolved_empty (naming : ParameterNaming) (registry : Registry) (typeName : String)
    (placed : String × Placement) :
    resolved naming .empty typeName placed =
      (resolved naming registry typeName placed).map MetaConstraint.withoutCheckers := by
  simp only [resolved, resolve, Option.map_map, checkersOf_empty]
  rfl

/-- Changing every result of a run that may fail is changing the list of results. -/
theorem mapM_map_result {α β γ : Type} (f : α → Option β) (change : β → γ) (list : List α) :
    list.mapM (fun item => (f item).map change) = (list.mapM f).map (List.map change) := by
  induction list with
  | nil => rfl
  | cons item rest ih =>
      rw [List.mapM_cons, List.mapM_cons, ih]
      cases f item with
      | none => rfl
      | some first => cases rest.mapM f <;> rfl

/-- Without definitions the same constraints hold, and none has a checker. -/
theorem build_empty (naming : ParameterNaming) (registry : Registry) (sources : List Source)
    (typeName : String) :
    (Bean.build naming .empty sources typeName).2 =
      (Bean.build naming registry sources typeName).2.map Bean.withoutCheckers := by
  have alike : resolved naming .empty typeName = fun placed =>
      (resolved naming registry typeName placed).map MetaConstraint.withoutCheckers :=
    funext fun placed => resolved_empty naming registry typeName placed
  rw [build_result, build_result, alike, mapM_map_result, Option.map_map, Option.map_map]
  rfl

/-- What is so related before both sides are changed is related in the new way afterwards. -/
theorem rel_map {α β γ δ : Type} {before : α → β → Prop} {after : γ → δ → Prop}
    {first : Option α} {second : Option β} (f : α → γ) (g : β → δ)
    (related : Option.Rel before first second)
    (carried : ∀ one other, before one other → after (f one) (g other)) :
    Option.Rel after (first.map f) (second.map g) := by
  cases related with
  | none => exact .none
  | some held => exact .some (carried _ _ held)

theorem rel_perm_trans {β : Type} {first second third : Option (List β)}
    (earlier : Option.Rel List.Perm first second) (later : Option.Rel List.Perm second third) :
    Option.Rel List.Perm first third := by
  cases earlier with
  | none => exact later
  | some perm =>
      cases later with
      | some next => exact .some (perm.trans next)

/-- A run that may fail fails for every order of a list or for none, and its results follow the
order. -/
theorem mapM_perm {α β : Type} (f : α → Option β) {first second : List α}
    (reordered : first.Perm second) :
    Option.Rel List.Perm (first.mapM f) (second.mapM f) := by
  induction reordered with
  | nil => exact .some .nil
  | cons item _ ih =>
      rw [List.mapM_cons, List.mapM_cons]
      cases f item with
      | none => exact .none
      | some result =>
          have front := rel_map (result :: ·) (result :: ·) ih fun _ _ perm => perm.cons result
          simpa [Option.map_eq_bind, Function.comp_def] using front
  | swap one other rest =>
      simp only [List.mapM_cons]
      cases f one with
      | none => cases f other <;> exact .none
      | some result =>
          cases f other with
          | none => exact .none
          | some another =>
              cases rest.mapM f with
              | none => exact .none
              | some results => exact .some (.swap result another results)
  | trans _ _ ihFirst ihSecond => exact rel_perm_trans ihFirst ihSecond

/-- Sources that place the same constraints in another order lead to the same constraints in
another order, or both to none. -/
theorem build_perm (naming : ParameterNaming) (registry : Registry) {first second : List Source}
    (typeName : String)
    (reordered : (placementsOn first typeName).Perm (placementsOn second typeName)) :
    Option.Rel (fun one other => one.constraints.Perm other.constraints)
      (Bean.build naming registry first typeName).2
      (Bean.build naming registry second typeName).2 := by
  rw [build_result, build_result]
  exact rel_map _ _ (mapM_perm (resolved naming registry typeName) reordered) fun _ _ perm => perm

end BeanConstraints.Metadata
