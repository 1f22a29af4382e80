/-
# What the store of managers does

One statement for each operation of the store, said in terms of the manager found
at an identity and of the marks of the keys in the index. A mark is what a key is
compared by: the identity of the provider of parameter names, the extractors and
the rules for methods. Everything later about managers rests on these statements
and not on how the store goes about its work.
-/

import BeanConstraints.Metadata.Store

namespace BeanConstraints.Metadata

namespace Key

/-- What keys are compared by. -/
def mark (key : Key) : Nat × Extractors × MethodRules :=
  (key.naming.id, key.extractors, key.rules)

/-- Keys agree exactly if they have one mark. -/
theorem agrees_iff {first second : Key} :
    first.agrees second = true ↔ first.mark = second.mark := by
  simp [agrees, mark, Instance.same, and_assoc]

theorem agrees_comm (first second : Key) : first.agrees second = second.agrees first := by
  rw [Bool.eq_iff_iff, agrees_iff, agrees_iff, eq_comm]

end Key

namespace Manager

@[simp]
theorem clear_key (manager : Manager) : manager.clear.key = manager.key := rfl

@[simp]
theorem clear_clear (manager : Manager) : manager.clear.clear = manager.clear := rfl

variable (manager : Manager) (registry : Registry) (typeName : String)

/-- Being asked does not change what a manager builds metadata from. -/
@[simp]
theorem bean_key : (manager.bean registry typeName).2.1.key = manager.key := by
  unfold bean
  split
  · rfl
  · split <;> rfl

@[simp]
theorem bean_sources : (manager.bean registry typeName).2.1.sources = manager.sources := by
  unfold bean
  split
  · rfl
  · split <;> rfl

/-- Every bean that is kept is the one that would be built now. -/
def IsFresh (manager : Manager) (registry : Registry) : Prop :=
  ∀ typeName built, manager.beans.get? typeName = some built →
    (manager.build registry typeName).2 = some built.bean

/-- A manager that keeps nothing keeps nothing stale. -/
theorem isFresh_of_empty {manager : Manager} (nothing : manager.beans.table = .empty) :
    manager.IsFresh registry := by
  intro typeName built kept
  rw [Locked.get?_eq, nothing] at kept
  simp at kept

variable {manager registry}

/-- What is added at a request is what was just built. -/
theorem IsFresh.bean (fresh : manager.IsFresh registry) :
    (manager.bean registry typeName).2.1.IsFresh registry := by
  intro other built kept
  have same : (manager.bean registry typeName).2.1.build registry other =
      manager.build registry other := by
    unfold build
    rw [bean_key, bean_sources]
  rw [same]
  unfold Manager.bean at kept
  split at kept
  · exact fresh other built kept
  · split at kept
    · rw [Locked.get?_eq, Locked.table_crash] at kept
      exact fresh other built ((Locked.get?_eq _ _).trans kept)
    · rename_i bean made
      rw [Locked.get?_eq, Locked.table_insert] at kept
      by_cases asked : other = typeName
      · subst asked
        rw [Table.get?_insert_self, Option.some.injEq] at kept
        rw [made, ← kept]
      · rw [Table.get?_insert_of_ne _ _ asked] at kept
        exact fresh other built ((Locked.get?_eq _ _).trans kept)

/-- While nothing is stale, keeping beans cannot be told from building them. -/
theorem IsFresh.answer (fresh : manager.IsFresh registry) :
    (manager.bean registry typeName).2.2.map Built.bean = (manager.build registry typeName).2 := by
  unfold Manager.bean
  split
  · rename_i built kept
    exact (fresh typeName built kept).symm
  · split
    · rename_i failed
      rw [failed]
      rfl
    · rename_i made
      rw [made]
      rfl

end Manager

namespace Store

/-- Changing the value in a place by what it is there is changing the place. -/
theorem modify_const {α : Type} {list : List α} {place : Nat} {value : α} (change : α → α)
    (there : list[place]? = some value) :
    list.modify place (fun _ => change value) = list.modify place change := by
  apply List.ext_getElem?
  intro other
  rw [List.getElem?_modify, List.getElem?_modify]
  by_cases same : place = other
  · subst same
    simp [there]
  · simp [same]

variable (store : Store)

theorem manager?_modify (id other : ManagerId) (change : Manager → Manager) :
    (store.modify id change).manager? other =
      if id = other then (store.manager? other).map change else store.manager? other := by
  simp only [manager?, modify, List.getElem?_modify]
  split <;> simp

/-- Asking for metadata changes the manager that is asked, and nothing else. -/
theorem bean_store (registry : Registry) (id : ManagerId) (typeName : String) :
    (store.bean registry id typeName).2.1 =
      store.modify id fun manager => (manager.bean registry typeName).2.1 := by
  unfold bean
  split
  · rename_i absent
    have past : store.managers.length ≤ id := by
      simpa [manager?] using absent
    simp [modify, List.modify_eq_self past]
  · rename_i manager there
    exact congrArg (fun managers => { store with managers })
      (modify_const (fun manager => (manager.bean registry typeName).2.1) there)

/-- The answer comes from the manager that is asked. -/
theorem bean_answer {registry : Registry} {id : ManagerId} {typeName : String} {manager : Manager}
    (there : store.manager? id = some manager) :
    (store.bean registry id typeName).2.2 = (manager.bean registry typeName).2.2 := by
  rw [bean, there]

theorem find?_eq_some {key : Key} {id : ManagerId} (found : store.find? key = some id) :
    ∃ other, (other, id) ∈ store.index ∧ other.mark = key.mark := by
  unfold find? at found
  obtain ⟨⟨other, named⟩, first, rfl⟩ := Option.map_eq_some_iff.mp found
  have agreeing : other.agrees key = true := by
    simpa using List.find?_some first
  exact ⟨other, List.mem_of_find?_eq_some first, Key.agrees_iff.mp agreeing⟩

theorem find?_eq_none {key : Key} (missing : store.find? key = none) {entry : Key × ManagerId}
    (listed : entry ∈ store.index) : entry.1.mark ≠ key.mark := by
  have apart := List.find?_eq_none.mp (Option.map_eq_none_iff.mp missing) entry listed
  exact fun same => apart (Key.agrees_iff.mpr same)

/-- A second look right after the first finds what that one found. -/
theorem getOrMake_eq_claimOrMake {ε : Type} (key : Key) (make : Maker ε) :
    store.getOrMake key make = store.claimOrMake key make := by
  unfold getOrMake
  split
  · rename_i id found
    rw [claimOrMake, found]
  · rfl

/-- A key is answered from the index, or by a new manager that is filed under it. -/
theorem get_cases (key : Key) (sources : List Source) :
    (∃ id, store.find? key = some id ∧ (store.get key sources).2 = (store, id)) ∨
      (store.find? key = none ∧ (store.get key sources).2 = (store.file key sources).2) := by
  cases found : store.find? key with
  | some id => exact .inl ⟨id, rfl, by simp [get, getOrBuild, getOrMake, found, Answer.id]⟩
  | none =>
      have built : (store.getOrBuild key fun _ => (.ok sources : Except Empty _)).2 =
          ((store.file key sources).2.1, .built (store.file key sources).2.2) := by
        simp [getOrBuild, getOrMake, claimOrMake, found, Builder.maker, Except.map, file]
      rw [Prod.ext_iff] at built
      exact .inr ⟨rfl, Prod.ext built.1 (congrArg Answer.id built.2)⟩

@[simp]
theorem index_add (key : Key) (manager : Manager) :
    (store.add key manager).2.1.index = store.index ++ [(key, store.managers.length)] := rfl

/-- The manager that is added is new, and the others stay. -/
theorem manager?_add (key : Key) (manager : Manager) (id : ManagerId) :
    (store.add key manager).2.1.manager? id =
      if id = store.managers.length then some manager else store.manager? id := by
  simp only [manager?, add]
  by_cases new : id = store.managers.length
  · simp [new]
  · rw [if_neg new]
    rcases Nat.lt_or_gt_of_ne new with before | past
    · exact List.getElem?_append_left before
    · rw [List.getElem?_eq_none (by rw [List.length_append]; exact past),
        List.getElem?_eq_none (Nat.le_of_lt past)]

/-- What was added is found under its key, and what was found before is found still. -/
theorem find?_add (key other : Key) (manager : Manager) :
    (store.add key manager).2.1.find? other =
      (store.find? other).or (if key.agrees other then some store.managers.length else none) := by
  rw [find?, index_add, List.find?_append, find?]
  cases store.index.find? fun entry => entry.1.agrees other with
  | some entry => rfl
  | none =>
      simp only [List.find?_singleton, Option.none_or, Option.map_none]
      split <;> rfl

@[simp]
theorem index_file (key : Key) (sources : List Source) :
    (store.file key sources).2.1.index = store.index ++ [(key, store.managers.length)] := rfl

/-- What was filed is found under its key, and what was found before is found still. -/
theorem find?_file (key other : Key) (sources : List Source) :
    (store.file key sources).2.1.find? other =
      (store.find? other).or (if key.agrees other then some store.managers.length else none) :=
  store.find?_add key other _

/-- The manager that is filed is new, and the others stay. -/
theorem manager?_file (key : Key) (sources : List Source) (id : ManagerId) :
    (store.file key sources).2.1.manager? id =
      if id = store.managers.length then some ⟨key, sources, .empty, 0⟩ else store.manager? id :=
  store.manager?_add key _ id

/-- The new identity was not in use. -/
theorem lt_of_manager? {id : ManagerId} {manager : Manager}
    (there : store.manager? id = some manager) : id < store.managers.length :=
  (List.getElem?_eq_some_iff.mp there).1

theorem manager?_foldl_clearManager (entries : List (Key × ManagerId)) (id : ManagerId) :
    (entries.foldl (fun store entry => store.clearManager entry.2) store).manager? id =
      (store.manager? id).map fun manager =>
        if id ∈ entries.map Prod.snd then manager.clear else manager := by
  induction entries generalizing store with
  | nil => simp
  | cons entry rest ih =>
      rw [List.foldl_cons, ih, clearManager, manager?_modify, List.map_cons]
      by_cases same : entry.2 = id
      · subst same
        cases store.manager? entry.2 with
        | none => simp
        | some manager => simp
      · have other : ¬ id = entry.2 := fun equal => same equal.symm
        simp only [if_neg same, List.mem_cons, other, false_or]

/-- Clearing empties the managers that are found and leaves the others alone. -/
theorem manager?_clear (id : ManagerId) :
    store.clear.2.manager? id = (store.manager? id).map fun manager =>
      if id ∈ store.index.map Prod.snd then manager.clear else manager :=
  manager?_foldl_clearManager store store.index id

end Store

end BeanConstraints.Metadata
