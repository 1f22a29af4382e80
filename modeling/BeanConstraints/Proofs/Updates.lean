/-
# What a registry recalls of its updates

A registry of checkers is updated by putting checkers for a constraint and by forgetting
everything, in any order and any number of times. What it then says on a constraint goes
back to the last update at which the constraint started anew: its checkers were replaced, or
everything was forgotten. From there on the lists that were put for the constraint follow
one another. If it never started anew, they follow what was registered at first.

An empty list that is put still makes a constraint known, and nothing but forgetting
everything makes it unknown again, so what is known has a history of its own.
-/

import BeanConstraints.Constraint.Registry
import BeanConstraints.Proofs.Table

namespace BeanConstraints

theorem Constraint.compare_eq_lt_iff {first second : Constraint} :
    compare first second = .lt ↔ first.name < second.name :=
  compareOfLessAndEq_eq_lt

namespace Registry

/-- An update of a registry. -/
inductive Update where
  | put (constraint : Constraint) (added : List Checker) (keepExisting : Bool)
  | clear
  deriving DecidableEq

namespace Update

/-- Make the update. -/
def apply (registry : Registry) : Update → Registry
  | put constraint added keepExisting => registry.put constraint added keepExisting
  | clear => registry.clear

/-- The list that is put for a constraint, empty if nothing is. -/
def listFor (constraint : Constraint) : Update → List Checker
  | put other added _ => if other = constraint then added else []
  | clear => []

/-- Whether the checkers that a constraint has stay with it. -/
def Spares (constraint : Constraint) : Update → Prop
  | put other _ keepExisting => other = constraint → keepExisting = true
  | clear => False

/-- Whether the update puts a list for a constraint, be it empty. -/
def Puts (constraint : Constraint) : Update → Prop
  | put other _ _ => other = constraint
  | clear => False

end Update

/-- The registry after updates. -/
def updated (registry : Registry) (history : List Update) : Registry :=
  history.foldl Update.apply registry

/-- The lists that updates put for a constraint, one behind the other. -/
def listsFor (constraint : Constraint) (history : List Update) : List Checker :=
  history.flatMap (Update.listFor constraint)

/-- What a history leaves to be said on a constraint, by the update at which the constraint last
started anew. -/
inductive Recalls (initial : Registry) (constraint : Constraint) :
    List Update → List Checker → Prop
  /-- Its checkers were replaced. -/
  | replaced {before after : List Update} (added : List Checker)
      (spared : ∀ later ∈ after, later.Spares constraint) :
      Recalls initial constraint (before ++ .put constraint added false :: after)
        (added ++ listsFor constraint after)
  /-- Everything was forgotten. -/
  | cleared {before after : List Update} (spared : ∀ later ∈ after, later.Spares constraint) :
      Recalls initial constraint (before ++ .clear :: after) (listsFor constraint after)
  /-- It never started anew. -/
  | continued {history : List Update} (spared : ∀ later ∈ history, later.Spares constraint) :
      Recalls initial constraint history
        (initial.checkersOf constraint ++ listsFor constraint history)

/-- A list was put for a constraint, and since then nothing was forgotten. -/
def PutSince (constraint : Constraint) (history : List Update) : Prop :=
  ∃ before added keepExisting after,
    history = before ++ .put constraint added keepExisting :: after ∧ .clear ∉ after

section

variable {registry : Registry} {constraint : Constraint} {update : Update}

/-- An update that spares a constraint puts its list behind what there is. -/
theorem checkersOf_apply (spares : update.Spares constraint) :
    (update.apply registry).checkersOf constraint =
      registry.checkersOf constraint ++ update.listFor constraint := by
  cases update with
  | clear => exact spares.elim
  | put other added keepExisting =>
      rw [Update.apply, Update.listFor]
      by_cases same : other = constraint
      · rw [if_pos same, ← same, checkersOf_put_self, if_pos (spares same)]
      · rw [if_neg same, checkersOf_put_of_ne _ _ _ fun equal => same equal.symm, List.append_nil]

theorem checkersOf_updated {history : List Update}
    (spared : ∀ update ∈ history, update.Spares constraint) :
    (registry.updated history).checkersOf constraint =
      registry.checkersOf constraint ++ listsFor constraint history := by
  induction history generalizing registry with
  | nil => exact (List.append_nil _).symm
  | cons update rest ih =>
      obtain ⟨here, later⟩ := List.forall_mem_cons.mp spared
      change ((update.apply registry).updated rest).checkersOf constraint = _
      rw [ih later, checkersOf_apply here, List.append_assoc]
      rfl

theorem contains_apply :
    (update.apply registry).contains constraint = true ↔
      registry.contains constraint = true ∧ update ≠ .clear ∨ update.Puts constraint := by
  cases update with
  | clear => exact iff_of_false Bool.false_ne_true (by simp [Update.Puts])
  | put other added keepExisting =>
      rw [Update.apply, contains, contains, Table.contains, Table.contains, get?_put, Update.Puts]
      by_cases same : constraint = other
      · simp [same]
      · have apart : other ≠ constraint := fun equal => same equal.symm
        simp [same, apart]

end

section

variable {initial : Registry} {constraint : Constraint}

theorem updated_append (registry : Registry) (earlier later : List Update) :
    registry.updated (earlier ++ later) = (registry.updated earlier).updated later :=
  List.foldl_append

/-- What a history recalls is what the registry says. -/
theorem Recalls.checkersOf {history : List Update} {checkers : List Checker}
    (recalls : Recalls initial constraint history checkers) :
    (initial.updated history).checkersOf constraint = checkers := by
  cases recalls with
  | @replaced before after added spared =>
      have anew : ((initial.updated before).put constraint added false).checkersOf constraint =
          added := checkersOf_put_self _ _ _ _
      rw [updated_append]
      exact (checkersOf_updated spared).trans (congrArg (· ++ _) anew)
  | cleared spared =>
      rw [updated_append]
      exact checkersOf_updated spared
  | continued spared => exact checkersOf_updated spared

/-- One more update continues what a history recalls, or starts it anew. -/
theorem Recalls.concat {history : List Update} {checkers : List Checker}
    (recalls : Recalls initial constraint history checkers) (update : Update) :
    ∃ checkers, Recalls initial constraint (history ++ [update]) checkers := by
  by_cases spares : update.Spares constraint
  · have spared {after : List Update} (before : ∀ later ∈ after, later.Spares constraint) :
        ∀ later ∈ after ++ [update], later.Spares constraint :=
      List.forall_mem_append.mpr ⟨before, List.forall_mem_singleton.mpr spares⟩
    cases recalls with
    | replaced added before =>
        rw [List.append_assoc]
        exact ⟨_, .replaced added (spared before)⟩
    | cleared before =>
        rw [List.append_assoc]
        exact ⟨_, .cleared (spared before)⟩
    | continued before => exact ⟨_, .continued (spared before)⟩
  · have nothing : ∀ later ∈ ([] : List Update), later.Spares constraint := List.forall_mem_nil _
    cases update with
    | clear => exact ⟨_, .cleared nothing⟩
    | put other added keepExisting =>
        obtain ⟨rfl, replaces⟩ := Classical.not_imp.mp spares
        rw [Bool.eq_false_of_not_eq_true replaces]
        exact ⟨_, .replaced added nothing⟩

theorem exists_recalls (initial : Registry) (constraint : Constraint) (history : List Update) :
    ∃ checkers, Recalls initial constraint history checkers := by
  induction history using List.reverseRecOn with
  | nil => exact ⟨_, .continued (List.forall_mem_nil _)⟩
  | append_singleton earlier update ih =>
      obtain ⟨checkers, recalls⟩ := ih
      exact recalls.concat update

theorem checkersOf_updated_iff {history : List Update} {checkers : List Checker} :
    (initial.updated history).checkersOf constraint = checkers ↔
      Recalls initial constraint history checkers := by
  refine ⟨?_, Recalls.checkersOf⟩
  rintro rfl
  obtain ⟨checkers, recalls⟩ := exists_recalls initial constraint history
  rwa [recalls.checkersOf]

/-- The first update of a history puts the list, or a later one does. -/
theorem putSince_cons {update : Update} {rest : List Update} :
    PutSince constraint (update :: rest) ↔
      update.Puts constraint ∧ .clear ∉ rest ∨ PutSince constraint rest := by
  refine ⟨?_, ?_⟩
  · rintro ⟨before, added, keepExisting, after, whole, kept⟩
    cases before with
    | nil =>
        cases whole
        exact .inl ⟨rfl, kept⟩
    | cons _ before =>
        cases whole
        exact .inr ⟨before, added, keepExisting, after, rfl, kept⟩
  · rintro (⟨puts, kept⟩ | ⟨before, added, keepExisting, after, rfl, kept⟩)
    · cases update with
      | clear => exact puts.elim
      | put other added keepExisting =>
          cases puts
          exact ⟨[], added, keepExisting, rest, rfl, kept⟩
    · exact ⟨update :: before, added, keepExisting, after, rfl, kept⟩

/-- A constraint is known from before, or since a list was put for it. -/
theorem contains_updated_iff {history : List Update} :
    (initial.updated history).contains constraint = true ↔
      initial.contains constraint = true ∧ .clear ∉ history ∨ PutSince constraint history := by
  induction history generalizing initial with
  | nil => simp [updated, PutSince]
  | cons update rest ih =>
      change ((update.apply initial).updated rest).contains constraint = true ↔ _
      rw [ih, contains_apply, putSince_cons, List.mem_cons, not_or, ne_comm]
      tauto

end

/-- Whatever a registry holds at first, and whatever history of updates it has: it says on a
constraint what the history recalls, and nothing else. It knows a constraint if it knew it at first
and nothing was forgotten, or if a list was put for the constraint since everything was last
forgotten. It lists the constraints that it knows, and no other, by rising names, and counts them.
Putting checkers for one constraint changes nothing that it says on another. -/
theorem updates_recalled (initial : Registry) (history : List Update) :
    let registry := initial.updated history
    (∀ constraint checkers, registry.checkersOf constraint = checkers ↔
        Recalls initial constraint history checkers) ∧
      (∀ constraint, registry.contains constraint = true ↔
        initial.contains constraint = true ∧ .clear ∉ history ∨ PutSince constraint history) ∧
      (registry.constraints.Pairwise fun first second => first.name < second.name) ∧
      (∀ constraint, constraint ∈ registry.constraints ↔ registry.contains constraint = true) ∧
      registry.size = registry.constraints.length ∧
      ∀ constraint added keepExisting other, other ≠ constraint →
        let after := registry.put constraint added keepExisting
        after.checkersOf other = registry.checkersOf other ∧
          after.contains other = registry.contains other := by
  intro registry
  refine ⟨fun _ _ => checkersOf_updated_iff, fun _ => contains_updated_iff, ?_,
    fun _ => Table.mem_keys, (List.length_map _).symm, ?_⟩
  · exact List.pairwise_map.mpr (registry.checkers.rising.imp Constraint.compare_eq_lt_iff.mp)
  · intro constraint added keepExisting other apart
    refine ⟨checkersOf_put_of_ne registry added keepExisting apart, ?_⟩
    rw [contains, contains, Table.contains, Table.contains, get?_put, if_neg apart]

/-- Sizes are extended, replaced and extended again, and another constraint is put without
checkers; then everything is forgotten, and patterns are put anew. -/
example :
    let size : Constraint := ⟨"constraints.Size"⟩
    let pattern : Constraint := ⟨"constraints.Pattern"⟩
    let checker (name : String) : Checker := ⟨name, "String"⟩
    let history : List Update := [.put size [checker "first"] true,
      .put size [checker "second"] false, .put pattern [] false,
      .put size [checker "third"] true]
    let forgotten := history ++ [.clear, .put pattern [checker "fourth"] true]
    (standard.updated history).checkersOf size = [checker "second", checker "third"] ∧
      (standard.updated history).contains pattern = true ∧
      (standard.updated forgotten).constraints = [pattern] ∧
      (standard.updated forgotten).checkersOf pattern = [checker "fourth"] := by
  decide

end Registry

end BeanConstraints
