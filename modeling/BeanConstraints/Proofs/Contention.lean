/-
# Many demands for managers at once

Callers that ask one store for managers at the same time take turns: each looks for
its key, and if it misses, it claims the key, which builds a manager unless somebody
has done so since the look. In whatever order the turns come, a key ends up with one
manager, which all its callers share; builders may fail one after the other until
one succeeds, and after that no builder of the key runs any more.

What carries this through the turns is that whoever was handed a manager still finds
it: the index only grows, and it grows by keys that are missing.
-/

import BeanConstraints.Proofs.Store
import BeanConstraints.Proofs.Turns

namespace BeanConstraints.Metadata

/-- A demand for the manager of a key, with the builder to use if there is none. -/
structure Demand (ε : Type) where
  key : Key
  build : Builder ε

/-- Only a manager that was handed out counts as one. -/
theorem Answer.result_eq_ok {ε : Type} {answer : Answer ε} {id : ManagerId}
    (handed : answer.result.toOption = some id) : answer.result = .ok id := by
  cases answer with
  | failed reason => cases handed
  | found _ => exact congrArg Except.ok (Option.some.inj handed)
  | built _ => exact congrArg Except.ok (Option.some.inj handed)

namespace Store

section

variable {ε : Type} (store : Store)

/-- Keys that agree lead to one manager. -/
theorem find?_congr {first second : Key} (alike : first.agrees second = true) :
    store.find? first = store.find? second := by
  have same := Key.agrees_iff.mp alike
  have entries : (fun entry : Key × ManagerId => entry.1.agrees first) =
      fun entry => entry.1.agrees second := by
    funext entry
    rw [Bool.eq_iff_iff, Key.agrees_iff, Key.agrees_iff, same]
  rw [find?, find?, entries]

/-- A claim for a key that is there leaves the store alone, one with a builder that fails too, and
otherwise the new manager is filed. -/
theorem claim_cases {motive : Store × Answer ε → Prop} (key : Key) (build : Builder ε)
    (found : ∀ id, store.find? key = some id → motive (store, .found id))
    (failed : ∀ reason, store.find? key = none → build key = .error reason →
      motive (store, .failed reason))
    (built : ∀ sources, store.find? key = none → build key = .ok sources →
      motive ((store.file key sources).2.1, .built store.managers.length)) :
    motive (store.claim key build).2 := by
  unfold claim claimOrMake Builder.maker
  split
  · rename_i id there
    exact found id there
  · rename_i missing
    cases ended : build key with
    | error reason => exact failed reason missing ended
    | ok sources => exact built sources missing ended

/-- A key that is there stays there when another one is claimed. -/
theorem contains_claim {key : Key} (there : store.contains key = true) (other : Key)
    (build : Builder ε) : (store.claim other build).2.1.contains key = true := by
  apply claim_cases (motive := fun claimed => claimed.1.contains key = true)
  · intro _ _
    exact there
  · intro _ _ _
    exact there
  · intro sources _ _
    rw [contains, find?_file, Option.isSome_or]
    exact (Bool.or_eq_true _ _).mpr (.inl there)

/-- No builder runs for a key that is there. -/
theorem ran_claim {key : Key} (there : store.contains key = true) (build : Builder ε) :
    (store.claim key build).2.2.ran = false := by
  have notMissing (missing : store.find? key = none) : False := by
    rw [contains, missing] at there
    cases there
  apply claim_cases (motive := fun claimed => claimed.2.ran = false)
  · intro _ _
    rfl
  · intro _ missing _
    exact absurd missing notMissing
  · intro _ missing _
    exact absurd missing notMissing

end

/-- The two steps of a demand. -/
def demanding (ε : Type) : TwoStep Store (Demand ε) (Answer ε) where
  look store demand := (store.find? demand.key).map .found
  claim store demand := (store.claim demand.key demand.build).2

/-- Callers at work on a store. -/
abbrev Contention (ι ε : Type) := Race ι Store (Answer ε)

namespace Contention

variable {ι ε : Type}

/-- The manager that a caller was handed. -/
def manager? (race : Contention ι ε) (caller : ι) : Option ManagerId :=
  (race.answer? caller).bind fun answer => answer.result.toOption

/-- A caller that has both turns to itself gets what asking in one go gives. -/
theorem run_undisturbed [DecidableEq ι] (demands : ι → Demand ε) (store : Store) (caller : ι) :
    let race := (Race.start store : Contention ι ε).run (demanding ε) demands [caller, caller]
    let asked := store.getOrBuild (demands caller).key (demands caller).build
    race.shared = asked.2.1 ∧ race.answer? caller = some asked.2.2 := by
  intro race asked
  have same : (demanding ε).ask store (demands caller) = asked.2 := by
    unfold asked TwoStep.ask getOrBuild getOrMake
    cases found : store.find? (demands caller).key with
    | some id => simp only [demanding, found, Option.map_some]
    | none => simp only [demanding, found, Option.map_none, claim]
  rw [← same]
  exact Race.start_run_twice store caller

/-- What is true of callers at work on a store that was there before them. -/
structure Orderly (demands : ι → Demand ε) (origin : Store) (race : Contention ι ε) : Prop where
  /-- Whoever was handed a manager finds it under its key. -/
  handed : ∀ caller answer id, race.answer? caller = some answer → answer.result = .ok id →
    race.shared.find? (demands caller).key = some id
  /-- An answer that needed a builder tells how the caller's own builder ended. -/
  own : ∀ caller answer, race.answer? caller = some answer → answer.ran = true →
    match (demands caller).build (demands caller).key with
    | .ok _ => ∃ id, answer = .built id
    | .error reason => answer = .failed reason
  /-- One caller per key built its manager. -/
  single : ∀ first second one other, race.answer? first = some (.built one) →
    race.answer? second = some (.built other) →
    (demands first).key.agrees (demands second).key = true → first = second
  /-- The keys are those from before and those whose managers were built. -/
  known : ∀ key, race.shared.contains key = true ↔ origin.contains key = true ∨
    ∃ caller id, race.answer? caller = some (.built id) ∧ (demands caller).key.agrees key = true

theorem orderly_start (demands : ι → Demand ε) (origin : Store) :
    Orderly demands origin (Race.start origin : Contention ι ε) where
  handed caller answer id got := by cases got
  own caller answer got := by cases got
  single first second one other got := by cases got
  known key := by
    refine (or_iff_left ?_).symm
    rintro ⟨caller, id, got, _⟩
    cases got

variable [DecidableEq ι] {demands : ι → Demand ε} {origin : Store} {race : Contention ι ε}
  {caller : ι}

/-- A caller that comes further without building anything disturbs nobody. -/
theorem Orderly.of_unbuilt (orderly : Orderly demands origin race)
    (new : race.answer? caller = none) {stage : Stage (Answer ε)}
    (unbuilt : ∀ id, stage.answer? ≠ some (.built id))
    (handed : ∀ answer id, stage.answer? = some answer → answer.result = .ok id →
      race.shared.find? (demands caller).key = some id)
    (own : ∀ answer, stage.answer? = some answer → answer.ran = true →
      match (demands caller).build (demands caller).key with
      | .ok _ => ∃ id, answer = .built id
      | .error reason => answer = .failed reason) :
    Orderly demands origin (race.advance race.shared caller stage) := by
  -- Whoever has built a manager has done so before.
  have builder (other : ι) (id : ManagerId) :
      (race.advance race.shared caller stage).answer? other = some (.built id) ↔
        race.answer? other = some (.built id) := by
    rw [Race.answer?_advance]
    split
    · rename_i same
      rw [same, new]
      exact iff_of_false (unbuilt id) fun built => by cases built
    · exact Iff.rfl
  refine ⟨?_, ?_, ?_, ?_⟩
  · intro other answer id got result
    rw [Race.answer?_advance] at got
    split at got
    · rename_i same
      exact same ▸ handed answer id got result
    · exact orderly.handed other answer id got result
  · intro other answer got ran
    rw [Race.answer?_advance] at got
    split at got
    · rename_i same
      exact same ▸ own answer got ran
    · exact orderly.own other answer got ran
  · intro first second one other firstBuilt secondBuilt
    exact orderly.single first second one other ((builder first one).mp firstBuilt)
      ((builder second other).mp secondBuilt)
  · intro key
    simp only [builder]
    exact orderly.known key

/-- A caller that is handed what is there disturbs nobody. -/
theorem Orderly.of_found (orderly : Orderly demands origin race)
    (new : race.answer? caller = none) {id : ManagerId}
    (there : race.shared.find? (demands caller).key = some id) :
    Orderly demands origin (race.advance race.shared caller (.answered (.found id))) := by
  refine orderly.of_unbuilt new (fun _ built => by cases built) ?_ ?_
  · intro answer other got result
    cases got
    cases result
    exact there
  · intro answer got ran
    cases got
    cases ran

/-- A caller whose builder succeeds is the first of its key. -/
theorem Orderly.of_built (orderly : Orderly demands origin race)
    (new : race.answer? caller = none)
    (missing : race.shared.find? (demands caller).key = none) {sources : List Source}
    (succeeds : (demands caller).build (demands caller).key = .ok sources) :
    Orderly demands origin (race.advance (race.shared.file (demands caller).key sources).2.1 caller
      (.answered (.built race.shared.managers.length))) := by
  let id := race.shared.managers.length
  have answers (other : ι) : (race.advance (race.shared.file (demands caller).key sources).2.1
      caller (.answered (.built id))).answer? other =
        if other = caller then some (.built id) else race.answer? other :=
    Race.answer?_advance _ _ _ _ _
  -- Nobody has built a manager for an agreeing key, for it would be found.
  have alone (other : ι) (one : ManagerId) (built : race.answer? other = some (.built one)) :
      (demands caller).key.agrees (demands other).key = false := by
    rw [Bool.eq_false_iff]
    intro alike
    have there := orderly.handed other _ one built rfl
    rw [← find?_congr race.shared alike, missing] at there
    cases there
  refine ⟨?_, ?_, ?_, ?_⟩
  · intro other answer one got result
    rw [answers] at got
    rw [Race.shared_advance, find?_file]
    split at got
    · rename_i same
      cases got
      cases result
      rw [same, missing, Option.none_or, if_pos (Key.agrees_iff.mpr rfl)]
    · rw [orderly.handed other answer one got result]
      rfl
  · intro other answer got ran
    rw [answers] at got
    split at got
    · rename_i same
      cases got
      rw [same, succeeds]
      exact ⟨id, rfl⟩
    · exact orderly.own other answer got ran
  · intro first second one other firstBuilt secondBuilt alike
    rw [answers] at firstBuilt secondBuilt
    split at firstBuilt <;> split at secondBuilt
    · rename_i firstNew secondNew
      rw [firstNew, secondNew]
    · rename_i firstNew _
      rw [firstNew, alone second other secondBuilt] at alike
      cases alike
    · rename_i _ secondNew
      rw [secondNew, Key.agrees_comm, alone first one firstBuilt] at alike
      cases alike
    · exact orderly.single first second one other firstBuilt secondBuilt alike
  · intro key
    have filed : (race.shared.file (demands caller).key sources).2.1.contains key = true ↔
        race.shared.contains key = true ∨ (demands caller).key.agrees key = true := by
      rw [contains, find?_file, contains]
      cases race.shared.find? key <;> simp
    rw [Race.shared_advance, filed, orderly.known, or_assoc]
    refine or_congr_right ⟨?_, ?_⟩
    · rintro (⟨other, one, built, alike⟩ | alike)
      · refine ⟨other, one, ?_, alike⟩
        rw [answers, if_neg, built]
        rintro rfl
        rw [new] at built
        cases built
      · exact ⟨caller, id, by rw [answers, if_pos rfl], alike⟩
    · rintro ⟨other, one, built, alike⟩
      rw [answers] at built
      split at built
      · rename_i same
        exact .inr (same ▸ alike)
      · exact .inl ⟨other, one, built, alike⟩

/-- Every turn leaves things in order. -/
theorem Orderly.turn (orderly : Orderly demands origin race) (caller : ι) :
    Orderly demands origin (race.turn (demanding ε) demands caller) := by
  have unanswered (stage : Stage (Answer ε)) (here : race.stage caller = stage)
      (open' : stage.answer? = none) : race.answer? caller = none := by
    rw [Race.answer?, here, open']
  apply Race.turn_cases (motive := Orderly demands origin) caller
  · intro answer here seen
    obtain ⟨id, there, rfl⟩ := Option.map_eq_some_iff.mp seen
    exact orderly.of_found (unanswered _ here rfl) there
  · intro here _
    have silent (answer : Answer ε) : Stage.missed.answer? ≠ some answer := fun got => by cases got
    exact orderly.of_unbuilt (unanswered _ here rfl) (fun _ => silent _)
      (fun _ _ got => absurd got (silent _)) fun _ got => absurd got (silent _)
  · intro here
    have new := unanswered _ here rfl
    refine claim_cases (motive := fun claimed => Orderly demands origin
      (race.advance claimed.1 caller (.answered claimed.2))) race.shared _ _ ?_ ?_ ?_
    · intro id there
      exact orderly.of_found new there
    · intro reason _ fails
      refine orderly.of_unbuilt new (fun _ built => by cases built) ?_ ?_
      · intro answer other got result
        cases got
        cases result
      · intro answer got _
        cases got
        rw [fails]
    · intro sources missing succeeds
      exact orderly.of_built new missing succeeds
  · intro _ _
    exact orderly

theorem orderly_run (demands : ι → Demand ε) (origin : Store) (turns : List ι) :
    Orderly demands origin ((Race.start origin).run (demanding ε) demands turns) :=
  Race.run_induction (orderly_start demands origin) fun _ caller orderly => orderly.turn caller

/-- Once the key of a caller is there, its builder does not run any more. -/
theorem ran_of_known {race : Contention ι ε} {caller : ι}
    (known : race.shared.contains (demands caller).key = true) (new : race.answer? caller = none)
    (turns : List ι) (answer : Answer ε)
    (got : (race.run (demanding ε) demands turns).answer? caller = some answer) :
    answer.ran = false := by
  have kept : (race.run (demanding ε) demands turns).shared.contains (demands caller).key = true ∧
      ∀ answer, (race.run (demanding ε) demands turns).answer? caller = some answer →
        answer.ran = false := by
    apply Race.run_induction (motive := fun later : Contention ι ε =>
      later.shared.contains (demands caller).key = true ∧
        ∀ answer, later.answer? caller = some answer → answer.ran = false)
    · refine ⟨known, fun answer early => ?_⟩
      rw [new] at early
      cases early
    · intro now mover ⟨there, unbuilt⟩
      -- The caller is answered in this turn without its builder, or the turn is not its own.
      have answered (shared : Store) (stage : Stage (Answer ε))
          (own : mover = caller → ∀ answer, stage.answer? = some answer → answer.ran = false)
          (answer : Answer ε)
          (got : (now.advance shared mover stage).answer? caller = some answer) :
          answer.ran = false := by
        rw [Race.answer?_advance] at got
        split at got
        · rename_i same
          exact own same.symm answer got
        · exact unbuilt answer got
      apply Race.turn_cases (motive := fun later : Contention ι ε =>
        later.shared.contains (demands caller).key = true ∧
          ∀ answer, later.answer? caller = some answer → answer.ran = false) mover
      · intro answer _ seen
        obtain ⟨id, _, rfl⟩ := Option.map_eq_some_iff.mp seen
        refine ⟨there, answered _ _ fun _ other same => ?_⟩
        cases same
        rfl
      · intro _ _
        exact ⟨there, answered _ _ fun _ _ got => by cases got⟩
      · intro _
        refine ⟨contains_claim now.shared there _ _, answered _ _ fun own other same => ?_⟩
        cases same
        rw [own]
        exact ran_claim now.shared there _
      · intro _ _
        exact ⟨there, unbuilt⟩
  exact kept.2 answer got

/-- However many callers ask one store at the same time, for whatever keys and with whatever
builders, and in whatever order they take their turns: callers of one key that are handed a manager
are handed the same one, which is what the store has for the key in the end. At most one builder
per key succeeds, and none runs once the key is there. What a builder ends with is the answer to its
own caller and to nobody else. In the end the store has the keys that it had before and those for
which a builder has succeeded, and two turns are enough for everyone. -/
theorem one_manager_per_key (demands : ι → Demand ε) (origin : Store) (turns : List ι) :
    let race : Contention ι ε := (Race.start origin).run (demanding ε) demands turns
    (∀ first second one other, race.manager? first = some one → race.manager? second = some other →
        (demands first).key.agrees (demands second).key = true → one = other) ∧
      (∀ caller id, race.manager? caller = some id →
        race.shared.find? (demands caller).key = some id) ∧
      (∀ first second one other, race.answer? first = some (.built one) →
        race.answer? second = some (.built other) →
        (demands first).key.agrees (demands second).key = true → first = second) ∧
      (∀ earlier later caller answer, turns = earlier ++ later →
        let before : Contention ι ε := (Race.start origin).run (demanding ε) demands earlier
        before.shared.contains (demands caller).key = true → race.answer? caller = some answer →
          answer.ran = true → before.answer? caller = some answer) ∧
      (∀ caller answer, race.answer? caller = some answer → answer.ran = true →
        match (demands caller).build (demands caller).key with
        | .ok _ => ∃ id, answer = .built id
        | .error reason => answer = .failed reason) ∧
      (∀ key, race.shared.contains key = true ↔ origin.contains key = true ∨
        ∃ caller id, race.answer? caller = some (.built id) ∧
          (demands caller).key.agrees key = true) ∧
      ∀ caller, 2 ≤ turns.count caller → (race.answer? caller).isSome = true := by
  intro race
  have orderly := orderly_run demands origin turns
  have handed (caller : ι) (id : ManagerId) (got : race.manager? caller = some id) :
      race.shared.find? (demands caller).key = some id := by
    obtain ⟨answer, given, result⟩ := Option.bind_eq_some_iff.mp got
    exact orderly.handed caller answer id given (Answer.result_eq_ok result)
  refine ⟨?_, handed, orderly.single, ?_, orderly.own, orderly.known, ?_⟩
  · intro first second one other firstGot secondGot alike
    have firstFinds := handed first one firstGot
    rw [find?_congr race.shared alike, handed second other secondGot] at firstFinds
    exact (Option.some.inj firstFinds).symm
  · intro earlier later caller answer whole before known got ran
    have rest : race = before.run (demanding ε) demands later := by
      change (Race.start origin).run (demanding ε) demands turns = _
      rw [whole, Race.run_append]
    rw [rest] at got
    cases early : before.answer? caller with
    | some other =>
        rw [Race.answer?_run early] at got
        exact got
    | none =>
        rw [ran_of_known known early later answer got] at ran
        cases ran
  · intro caller twice
    exact Race.isSome_answer?_run twice

/-- Three callers of one key look before anybody claims it. The builder of the first fails, that of
the second succeeds, and that of the third does not run. -/
example :
    let key : Key := ⟨⟨0, .standard⟩, .configured [], .strict⟩
    let demands (caller : Fin 3) : Demand String :=
      ⟨key, fun _ => if caller = 0 then .error "no sources" else .ok []⟩
    let race : Contention (Fin 3) String :=
      (Race.start .empty).run (demanding String) demands [0, 1, 2, 0, 1, 2]
    [0, 1, 2].map race.answer? =
      [some (.failed "no sources"), some (.built 0), some (.found 0)] := by
  decide

end Contention

end Store

end BeanConstraints.Metadata
