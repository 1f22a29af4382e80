/-
# Failed builders leave no trace

Callers ask a store for managers, each with a builder that may fail, ask what is there,
and clear it, in any order. Which builders run is decided by what was built for agreeing
keys since the store was last cleared, and by nothing else: the keys that the store has
are those keys, each once. A builder that fails leaves the store as it is, so the
lookups with such builders can be struck out of any history.
-/

import BeanConstraints.Proofs.Contention
import BeanConstraints.Proofs.Serving
import Mathlib.Data.Finset.Card
import Mathlib.Data.List.DropRight

namespace BeanConstraints.Metadata

namespace Answer

/-- An answer of a builder that cannot fail, among those of builders that can. -/
def widen {ε : Type} : Answer Empty → Answer ε
  | found id => .found id
  | built id => .built id
  | failed reason => reason.elim

/-- Whether a builder ran and failed. -/
def isFailed {ε : Type} : Answer ε → Bool
  | failed _ => true
  | _ => false

end Answer

namespace Store

/-- A request to a store. -/
inductive Visit (ε : Type) where
  /-- For the manager of a key, which is made if there is none. -/
  | create (key : Key) (make : Key → Journal × Manager)
  /-- For the manager of a key, with a builder that may fail. -/
  | tryCreate (key : Key) (make : Maker ε)
  | contains (key : Key)
  | size
  | isEmpty
  | clear
  /-- Somebody who was handed a manager does something with it. -/
  | use (id : ManagerId) (change : Manager → Manager)

/-- What a request is answered. -/
inductive Reply (ε : Type) where
  | manager (answer : Answer ε)
  | contains (there : Bool)
  | size (count : Nat)
  | isEmpty (nothing : Bool)
  | done

variable {ε : Type}

/-- Answer a request. -/
def visit : Serving Store (Visit ε) (Reply ε)
  | store, .create key make =>
      let unfailing : Maker Empty := fun key => .ok (make key)
      let (_, later, answer) := store.getOrMake key unfailing
      (later, .manager answer.widen)
  | store, .tryCreate key make =>
      let (_, later, answer) := store.getOrMake key make
      (later, .manager answer)
  | store, .contains key => (store, .contains (store.contains key))
  | store, .size => (store, .size store.size)
  | store, .isEmpty => (store, .isEmpty store.isEmpty)
  | store, .clear => (store.clear.2, .done)
  | store, .use id change => (store.modify id change, .done)

/-- The key that a request looks up, with the builder to use if there is no manager. -/
def Visit.lookup? : Visit ε → Option (Key × Maker ε)
  | create key make => some (key, fun key => .ok (make key))
  | tryCreate key make => some (key, make)
  | _ => none

/-- Whether a request clears the store. -/
def Visit.isClear : Visit ε → Bool
  | clear => true
  | _ => false

/-- Whether a lookup ended with the failure of its builder. -/
def Reply.isFailed : Reply ε → Bool
  | manager answer => answer.isFailed
  | _ => false

/-- The manager that was made in a turn, with the key for which it was made. -/
def made? : Visit ε × Reply ε → Option (Key × ManagerId)
  | (request, .manager (.built id)) => request.lookup?.map fun lookup => (lookup.1, id)
  | _ => none

/-- The managers that were made since the store was last cleared. -/
def madeSince (turns : List (Visit ε × Reply ε)) : List (Key × ManagerId) :=
  (turns.rtakeWhile fun turn => !turn.1.isClear).filterMap made?

theorem madeSince_concat (turns : List (Visit ε × Reply ε)) (turn : Visit ε × Reply ε) :
    madeSince (turns ++ [turn]) =
      if turn.1.isClear then [] else madeSince turns ++ (made? turn).toList := by
  unfold madeSince
  rw [List.rtakeWhile_concat]
  cases turn.1.isClear with
  | true => rfl
  | false =>
      rw [if_neg Bool.false_ne_true, Bool.not_false, if_pos rfl, List.filterMap_append,
        List.filterMap_cons, List.filterMap_nil]
      cases made? turn <;> rfl

/-- A lookup finds a manager, or its builder fails and the store is left alone, or the manager that
the builder makes is added. -/
theorem lookup_cases {request : Visit ε} {key : Key} {make : Maker ε}
    (asked : request.lookup? = some (key, make)) (store : Store) :
    (∃ id, store.find? key = some id ∧ visit store request = (store, .manager (.found id))) ∨
      store.find? key = none ∧
        ((∃ reason, make key = .error reason ∧
            visit store request = (store, .manager (.failed reason))) ∨
          ∃ made, make key = .ok made ∧ visit store request =
            ((store.add key made.2).2.1, .manager (.built store.managers.length))) := by
  have answered : visit store request =
      ((store.claimOrMake key make).2.1, .manager (store.claimOrMake key make).2.2) := by
    rw [← getOrMake_eq_claimOrMake]
    cases request with
    | create key make =>
        cases asked
        simp only [visit, getOrMake_eq_claimOrMake, claimOrMake]
        cases store.find? key <;> rfl
    | tryCreate key make =>
        cases asked
        rfl
    | _ => cases asked
  rw [answered, claimOrMake]
  cases store.find? key with
  | some id => exact .inl ⟨id, rfl, rfl⟩
  | none =>
      cases make key with
      | error reason => exact .inr ⟨rfl, .inl ⟨reason, rfl, rfl⟩⟩
      | ok made => exact .inr ⟨rfl, .inr ⟨made, rfl, rfl⟩⟩

/-- A builder that fails leaves the store alone. -/
theorem visit_of_failed {store : Store} {request : Visit ε}
    (failed : (visit store request).2.isFailed = true) : (visit store request).1 = store := by
  have looked {key : Key} {make : Maker ε} (asked : request.lookup? = some (key, make)) :
      (visit store request).1 = store := by
    rcases lookup_cases asked store with
      ⟨id, _, answered⟩ | ⟨_, ⟨reason, _, answered⟩ | ⟨made, _, answered⟩⟩
    · rw [answered]
    · rw [answered]
    · rw [answered] at failed
      cases failed
  cases request with
  | create key make => exact looked rfl
  | tryCreate key make => exact looked rfl
  | _ => cases failed

theorem isClear_of_lookup {request : Visit ε} {lookup : Key × Maker ε}
    (asked : request.lookup? = some lookup) : request.isClear = false := by
  cases request with
  | clear => cases asked
  | _ => rfl

/-- What holds of a store and of the history that led to it. -/
structure Kept (turns : List (Visit ε × Reply ε)) (store : Store) : Prop where
  /-- The managers that are found are those made since the store was last cleared. -/
  index : store.index = madeSince turns
  /-- No two of them have keys that agree. -/
  apart : (store.index.map fun entry => entry.1.mark).Nodup
  made : ∀ entry ∈ store.index, entry.2 < store.managers.length

variable {turns : List (Visit ε × Reply ε)} {store : Store}

theorem kept_start : Kept ([] : List (Visit ε × Reply ε)) .empty where
  index := rfl
  apart := .nil
  made := List.forall_mem_nil _

/-- Nothing new is told by a request that makes no manager and leaves the index alone. -/
theorem Kept.of_index (kept : Kept turns store) {turn : Visit ε × Reply ε} {later : Store}
    (stays : turn.1.isClear = false) (unmade : made? turn = none)
    (index : later.index = store.index)
    (managers : later.managers.length = store.managers.length) :
    Kept (turns ++ [turn]) later := by
  refine ⟨?_, index ▸ kept.apart, ?_⟩
  · rw [madeSince_concat, stays, if_neg Bool.false_ne_true, unmade, index, kept.index]
    exact (List.append_nil _).symm
  · rw [index, managers]
    exact kept.made

/-- A manager that is made is found from then on, beside the others. -/
theorem Kept.of_add (kept : Kept turns store) {request : Visit ε} {key : Key} {make : Maker ε}
    (asked : request.lookup? = some (key, make)) (missing : store.find? key = none)
    (manager : Manager) :
    Kept (turns ++ [(request, .manager (.built store.managers.length))])
      (store.add key manager).2.1 := by
  refine ⟨?_, ?_, ?_⟩
  · rw [madeSince_concat, isClear_of_lookup asked, if_neg Bool.false_ne_true, index_add, kept.index,
      made?, asked]
    rfl
  · -- The key was missing, so it agrees with none of those before it.
    rw [index_add, List.map_append, List.nodup_append]
    refine ⟨kept.apart, List.nodup_singleton _, ?_⟩
    intro mark listed other new
    obtain ⟨entry, there, rfl⟩ := List.mem_map.mp listed
    rw [List.mem_singleton.mp new]
    exact find?_eq_none store missing there
  · rw [index_add]
    intro entry listed
    have more : (store.add key manager).2.1.managers.length = store.managers.length + 1 :=
      List.length_append
    rw [more]
    rcases List.mem_append.mp listed with earlier | new
    · exact (kept.made entry earlier).trans (Nat.lt_succ_self _)
    · rw [List.mem_singleton.mp new]
      exact Nat.lt_succ_self _

/-- A store that was cleared has nothing in its index, whatever was there. -/
theorem Kept.of_clear {reply : Reply ε} (turns : List (Visit ε × Reply ε)) (store : Store) :
    Kept (turns ++ [(.clear, reply)]) store.clear.2 where
  index := by
    rw [madeSince_concat]
    rfl
  apart := .nil
  made := List.forall_mem_nil _

theorem Kept.lookup (kept : Kept turns store) {request : Visit ε} {key : Key} {make : Maker ε}
    (asked : request.lookup? = some (key, make)) :
    Kept (turns ++ [(request, (visit store request).2)]) (visit store request).1 := by
  have stays := isClear_of_lookup asked
  rcases lookup_cases asked store with
    ⟨id, _, answered⟩ | ⟨missing, ⟨reason, _, answered⟩ | ⟨made, _, answered⟩⟩
  · rw [answered]
    exact kept.of_index stays rfl rfl rfl
  · rw [answered]
    exact kept.of_index stays rfl rfl rfl
  · rw [answered]
    exact kept.of_add asked missing made.2

theorem Kept.step (kept : Kept turns store) (request : Visit ε) :
    Kept (turns ++ [(request, (visit store request).2)]) (visit store request).1 := by
  cases request with
  | create key make => exact kept.lookup rfl
  | tryCreate key make => exact kept.lookup rfl
  | contains key => exact kept.of_index rfl rfl rfl rfl
  | size => exact kept.of_index rfl rfl rfl rfl
  | isEmpty => exact kept.of_index rfl rfl rfl rfl
  | clear => exact Kept.of_clear turns store
  | use id change => exact kept.of_index rfl rfl rfl (List.length_modify _ _ _)

theorem kept_run (visits : List (Visit ε)) :
    Kept (Serving.history visit .empty visits) (Serving.after visit .empty visits) :=
  Serving.run_induction kept_start (fun _ _ request kept => kept.step request) visits

/-- The store has a manager for a key if one was made for an agreeing key since the last clear. -/
theorem Kept.contains_iff (kept : Kept turns store) (key : Key) :
    store.contains key = true ↔ ∃ entry ∈ madeSince turns, entry.1.agrees key = true := by
  rw [← kept.index, contains, find?, Option.isSome_map, List.find?_isSome]

/-- The managers are counted by the keys for which they were made. -/
theorem Kept.size_eq (kept : Kept turns store) :
    store.size = ((madeSince turns).map fun entry => entry.1.mark).toFinset.card := by
  rw [← kept.index, List.toFinset_card_of_nodup kept.apart, List.length_map]
  rfl

/-- Whoever was found before a store is cleared has forgotten everything afterwards. -/
theorem Kept.forgotten (kept : Kept turns store) {entry : Key × ManagerId}
    (listed : entry ∈ store.index) :
    ∃ manager, store.clear.2.manager? entry.2 = some manager ∧ manager.size = 0 := by
  obtain ⟨manager, there⟩ : ∃ manager, store.manager? entry.2 = some manager :=
    ⟨_, List.getElem?_eq_getElem (kept.made entry listed)⟩
  refine ⟨manager.clear, ?_, ?_⟩
  · rw [manager?_clear, there, Option.map_some, if_pos (List.mem_map_of_mem listed)]
  · exact Locked.size_eq _

/-- Whatever was asked of a new store so far. A lookup runs its builder exactly if no builder has
succeeded for an agreeing key since the store was last cleared, and else it finds the manager made
then. A builder that fails leaves the store as it was, and its failure is the answer. The store has
the keys for which managers were made since it was last cleared and counts each of them once. When
it is cleared, it has no key any more, and the managers that it had keep nothing. And if the lookups
with failing builders are struck out, all others are answered as they were, and the store ends up
the same. -/
theorem failures_leave_no_trace (visits : List (Visit ε)) :
    let turns := Serving.history visit .empty visits
    let store := Serving.after visit .empty visits
    let cleared := (visit store (.clear : Visit ε)).1
    let others := turns.filter fun turn => !turn.2.isFailed
    (∀ (request : Visit ε) key make, request.lookup? = some (key, make) →
      ∃ answer : Answer ε, (visit store request).2 = .manager answer ∧
        (answer.ran = true ↔ ∀ entry ∈ madeSince turns, entry.1.agrees key = false) ∧
        match answer.ran, make key with
        | false, _ => ∃ entry ∈ madeSince turns, entry.1.agrees key = true ∧
            visit store request = (store, .manager (.found entry.2))
        | true, .error reason => visit store request = (store, .manager (.failed reason))
        | true, .ok made => answer = .built store.managers.length ∧
            (visit store request).1.manager? store.managers.length = some made.2) ∧
      (∀ key, store.contains key = true ↔ ∃ entry ∈ madeSince turns, entry.1.agrees key = true) ∧
      store.size = ((madeSince turns).map fun entry => entry.1.mark).toFinset.card ∧
      (store.isEmpty = true ↔ store.size = 0) ∧
      cleared.size = 0 ∧ (∀ key, cleared.contains key = false) ∧
      (∀ entry ∈ store.index,
        ∃ manager, cleared.manager? entry.2 = some manager ∧ manager.size = 0) ∧
      Serving.history visit .empty (others.map Prod.fst) = others ∧
        Serving.after visit .empty (others.map Prod.fst) = store := by
  intro turns store cleared others
  have kept : Kept turns store := kept_run visits
  refine ⟨?_, kept.contains_iff, kept.size_eq, ?_, rfl, fun _ => rfl, fun _ => kept.forgotten, ?_⟩
  · intro request key make asked
    have none_agrees : store.find? key = none ↔
        ∀ entry ∈ madeSince turns, entry.1.agrees key = false := by
      rw [← kept.index, find?, Option.map_eq_none_iff, List.find?_eq_none]
      simp
    rcases lookup_cases asked store with
      ⟨id, found, answered⟩ | ⟨missing, ⟨reason, fails, answered⟩ | ⟨made, succeeds, answered⟩⟩
    · refine ⟨.found id, by rw [answered], ?_, ?_⟩
      · rw [← none_agrees, found]
        exact iff_of_false Bool.false_ne_true (Option.some_ne_none id)
      · obtain ⟨entry, there, rfl⟩ := Option.map_eq_some_iff.mp found
        refine ⟨entry, kept.index ▸ List.mem_of_find?_eq_some there, ?_, answered⟩
        simpa using List.find?_some there
    · refine ⟨.failed reason, by rw [answered], iff_of_true rfl (none_agrees.mp missing), ?_⟩
      rw [fails]
      exact answered
    · refine ⟨.built store.managers.length, by rw [answered],
        iff_of_true rfl (none_agrees.mp missing), ?_⟩
      rw [succeeds, answered]
      exact ⟨rfl, (store.manager?_add key made.2 _).trans (if_pos rfl)⟩
  · exact List.isEmpty_iff_length_eq_zero
  · exact Serving.decidedBy_id.struck (fun _ _ failed => visit_of_failed failed) .empty visits

/-- Builders fail for a key before its manager is made and after the store is cleared. Without them
each of the other requests gets the answer that it got. -/
theorem failures_leave_no_trace_of_two_failures :
    let key : Key := ⟨⟨0, .standard⟩, .configured [], .strict⟩
    let fresh (key : Key) : Journal × Manager := Manager.start key []
    let visits : List (Visit String) := [.tryCreate key fun _ => .error "no sources",
      .contains key, .create key fresh, .size, .clear, .size,
      .tryCreate key fun _ => .error "no sources", .tryCreate key fun key => .ok (fresh key)]
    let turns := Serving.history visit Store.empty visits
    let others := turns.filter fun turn => !turn.2.isFailed
    let replies : List (Reply String) := [.contains false, .manager (.built 0), .size 1, .done,
      .size 0, .manager (.built 1)]
    others.map Prod.snd = replies ∧
      (Serving.history visit Store.empty (others.map Prod.fst)).map Prod.snd = replies := by
  intro key fresh visits turns others replies
  have answered : others.map Prod.snd = replies := rfl
  obtain ⟨-, -, -, -, -, -, -, struck, -⟩ := failures_leave_no_trace visits
  exact ⟨answered, (congrArg (List.map Prod.snd) struck).trans answered⟩

end Store

end BeanConstraints.Metadata
