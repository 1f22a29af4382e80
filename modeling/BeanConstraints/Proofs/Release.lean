/-
# What closing releases

Closing a factory empties its index, its definitions and what its own supplies
remember, tells supplies that live outside to release what they have, and makes
those managers forget their metadata that the index leads to. Validators keep managers that no index leads to any more, since an earlier close
has taken them out. Such a manager is not reached by a later close: what it is asked
for after the close that took it out stays with it.

The argument goes through a run request by request: a manager keeps a bean type if
some request had it built and no later one made the manager forget.
-/

import BeanConstraints.Proofs.Sharing

namespace BeanConstraints

namespace Ledger

/-- What a supply has forgotten it does not remember when another one forgets. -/
theorem read_clear (ledger : Ledger) (cleared id : Nat) :
    (ledger.clear cleared).read id = if id = cleared then [] else ledger.read id := by
  split
  · rename_i same
    rw [same, read_clear_self]
  · rename_i apart
    have others : (fun entry : Nat × List String =>
        decide ((entry.1 != cleared) = true ∧ (entry.1 == id) = true)) =
          fun entry => entry.1 == id := by
      funext entry
      rw [Bool.eq_iff_iff, decide_eq_true_iff, bne_iff_ne, beq_iff_eq, and_iff_right_iff_imp]
      exact fun same => same ▸ apart
    rw [read, clear, List.find?_filter, others, read]

end Ledger

namespace Metadata

namespace Manager

/-- A request adds the bean type that was asked for, if there is an answer. -/
theorem contains_bean (manager : Manager) (registry : Registry) (asked typeName : String) :
    (manager.bean registry asked).2.1.beans.contains typeName = true ↔
      (asked = typeName ∧ (manager.bean registry asked).2.2.isSome = true) ∨
        manager.beans.contains typeName = true := by
  unfold bean
  split
  · rename_i built kept
    refine (or_iff_right_of_imp ?_).symm
    rintro ⟨rfl, _⟩
    exact Option.isSome_iff_exists.mpr ⟨built, kept⟩
  · split
    · simp
    · rw [Locked.contains_eq, Locked.table_insert, Table.contains_insert, eq_comm]
      simp

/-- A manager that was cleared keeps nothing. -/
theorem contains_clear (manager : Manager) (typeName : String) :
    manager.clear.beans.contains typeName = false :=
  Locked.contains_eq manager.clear.beans typeName

end Manager

namespace Store

variable (store : Store)

/-- Whether a manager keeps metadata of a bean type. -/
def keeps (id : ManagerId) (typeName : String) : Bool :=
  (store.manager? id).any fun manager => manager.beans.contains typeName

/-- A new manager keeps nothing yet. -/
theorem keeps_file (key : Key) (sources : List Source) (id : ManagerId) (typeName : String) :
    (store.file key sources).2.1.keeps id typeName = store.keeps id typeName := by
  unfold keeps
  rw [manager?_file]
  split
  · rename_i new
    have absent : store.manager? id = none :=
      List.getElem?_eq_none (Nat.le_of_eq new.symm)
    rw [absent]
    rfl
  · rfl

theorem keeps_clearManager (cleared id : ManagerId) (typeName : String) :
    (store.clearManager cleared).keeps id typeName = true ↔
      store.keeps id typeName = true ∧ cleared ≠ id := by
  unfold keeps clearManager
  rw [manager?_modify]
  split
  · rename_i same
    rw [Option.any_map]
    refine iff_of_false ?_ fun held => held.2 same
    rw [Option.any_eq_true]
    rintro ⟨manager, _, there⟩
    exact Bool.false_ne_true ((manager.contains_clear typeName).symm.trans there)
  · rename_i apart
    exact (and_iff_left apart).symm

/-- Clearing spares what no key leads to. -/
theorem keeps_clear (id : ManagerId) (typeName : String) :
    store.clear.2.keeps id typeName = true ↔
      store.keeps id typeName = true ∧ id ∉ store.index.map Prod.snd := by
  unfold keeps
  rw [manager?_clear, Option.any_map]
  by_cases listed : id ∈ store.index.map Prod.snd
  · simp only [listed, not_true, and_false, iff_false]
    rw [Option.any_eq_true]
    rintro ⟨manager, _, there⟩
    exact Bool.false_ne_true ((manager.contains_clear typeName).symm.trans there)
  · simp only [listed, not_false_eq_true, and_true, if_false]

/-- A manager that is asked keeps what it answers with, and the others keep what they kept. -/
theorem keeps_bean (registry : Registry) (asked id : ManagerId) (askedType typeName : String) :
    (store.bean registry asked askedType).2.1.keeps id typeName = true ↔
      (askedType = typeName ∧ asked = id ∧
          (store.bean registry asked askedType).2.2.isSome = true) ∨
        store.keeps id typeName = true := by
  rw [bean_store]
  unfold keeps
  rw [manager?_modify]
  by_cases same : asked = id
  · subst same
    rw [if_pos rfl, Option.any_map]
    cases there : store.manager? asked with
    | none =>
        have unanswered : (store.bean registry asked askedType).2.2 = none := by
          rw [bean, there]
        rw [unanswered]
        simp
    | some manager =>
        rw [bean_answer store there]
        simpa using manager.contains_bean registry askedType typeName
  · simp [same]

end Store

end Metadata

namespace Factory

variable (factory : Factory)

/-- Closing makes the factory's own supply of validators forget its instances. -/
theorem read_validators_close (standard : factory.settings.validators.role.external = false) :
    factory.close.2.ledger.read factory.settings.validators.id = [] := by
  unfold close Ledger.clearValidators Ledger.clearScripts
  rw [standard]
  cases factory.settings.scripts.role.external
  · simp [Ledger.read_clear]
  · exact Ledger.read_clear_self _ _

/-- Closing makes the factory's own script evaluators forget what they have prepared. -/
theorem read_scripts_close (standard : factory.settings.scripts.role.external = false) :
    factory.close.2.ledger.read factory.settings.scripts.id = [] := by
  unfold close Ledger.clearScripts
  rw [standard]
  exact Ledger.read_clear_self _ _

/-- Closing tells the supply of validators and the script evaluators to release what they have, in
this order, as far as they live outside, and makes no other call. -/
theorem calls_close : factory.close.1.calls =
    (if factory.settings.validators.role.external then
        [.clearValidators factory.settings.validators.role.label]
      else []) ++
      if factory.settings.scripts.role.external then
        [.clearScripts factory.settings.scripts.role.label]
      else [] := by
  unfold close Ledger.clearScripts Ledger.clearValidators
  cases factory.settings.validators.role.external <;>
    cases factory.settings.scripts.role.external <;> rfl

end Factory

namespace Session

/-- A request that has a manager answer for a bean type. -/
def Fills (session : Session) (id : Metadata.ManagerId) (typeName : String) : Request → Prop
  | .bean number asked => asked = typeName ∧ ∃ handed, session.handed[number]? = some handed ∧
      handed.validator.manager = id ∧ (session.answer handed.validator asked).isSome = true
  | _ => False

/-- A request that makes a manager forget what it keeps. -/
def Empties (session : Session) (id : Metadata.ManagerId) : Request → Prop
  | .forget number => ∃ handed, session.handed[number]? = some handed ∧
      handed.validator.manager = id
  | .close => id ∈ session.factory.store.index.map Prod.snd
  | _ => False

variable {session : Session} {id : Metadata.ManagerId} {typeName : String}

theorem keeps_handOut (settings : Settings) :
    (session.handOut settings).factory.store.keeps id typeName =
      session.factory.store.keeps id typeName := by
  apply handOut_cases (motive := fun later =>
    later.factory.store.keeps id typeName = session.factory.store.keeps id typeName) settings
  · intro _ _ _ _
    rfl
  · intro _
    exact Metadata.Store.keeps_file _ _ _ _ _

/-- What a manager keeps after a request is what the request had it build, and what it kept before
if the request did not make it forget. -/
theorem keeps_step (request : Request) :
    (session.step request).factory.store.keeps id typeName = true ↔
      session.Fills id typeName request ∨
        (session.factory.store.keeps id typeName = true ∧ ¬ session.Empties id request) := by
  have untouched {number : Nat} {act : Validator → Factory}
      (kept : ∀ validator, (act validator).store = session.factory.store) :
      (session.use number act).factory.store = session.factory.store := by
    unfold use
    split
    · exact kept _
    · rfl
  cases request with
  | validator => simp [step, keeps_handOut, Fills, Empties]
  | context overrides => simp [step, keeps_handOut, Fills, Empties]
  | bean number asked =>
      unfold step use
      cases given : session.handed[number]? with
      | none => simp [Fills, Empties, given]
      | some handed =>
          simp only [Fills, Empties, given, Option.some.injEq, exists_eq_left', not_false_eq_true,
            and_true]
          simpa [answer, Factory.bean] using session.factory.store.keeps_bean
            session.factory.registry handed.validator.manager id asked typeName
  | forget number =>
      unfold step use
      cases given : session.handed[number]? with
      | none => simp [Fills, Empties, given]
      | some handed =>
          simp only [Fills, Empties, given, Option.some.injEq, exists_eq_left', false_or]
          exact session.factory.store.keeps_clearManager _ _ _
  | acquire number name =>
      have same : (session.step (.acquire number name)).factory.store = session.factory.store :=
        untouched fun _ => rfl
      simp [same, Fills, Empties]
  | prepare number language =>
      have same : (session.step (.prepare number language)).factory.store =
          session.factory.store := untouched fun _ => rfl
      simp [same, Fills, Empties]
  | close =>
      simp only [Fills, Empties, false_or]
      exact session.factory.store.keeps_clear id typeName

/-- A place in a list is the first one or lies further back. -/
theorem exists_split_cons {α : Type} {first : α} {rest : List α}
    {holds : List α → α → List α → Prop} :
    (∃ earlier item later, first :: rest = earlier ++ item :: later ∧ holds earlier item later) ↔
      holds [] first rest ∨
        ∃ earlier item later, rest = earlier ++ item :: later ∧
          holds (first :: earlier) item later := by
  refine ⟨?_, ?_⟩
  · rintro ⟨earlier, item, later, whole, here⟩
    cases earlier with
    | nil =>
        cases whole
        exact .inl here
    | cons _ others =>
        cases whole
        exact .inr ⟨others, item, later, rfl, here⟩
  · rintro (here | ⟨earlier, item, later, rfl, here⟩)
    · exact ⟨[], first, rest, rfl, here⟩
    · exact ⟨first :: earlier, item, later, rfl, here⟩

/-- No request of a run makes the manager forget. -/
def Spares (session : Session) (id : Metadata.ManagerId) : List Request → Prop
  | [] => True
  | request :: rest => ¬ session.Empties id request ∧ (session.step request).Spares id rest

/-- What a manager keeps after a run has been there before it, or was built at a request of the run,
and no later request made the manager forget. -/
theorem keeps_run (requests : List Request) :
    (session.run requests).factory.store.keeps id typeName = true ↔
      (session.factory.store.keeps id typeName = true ∧ session.Spares id requests) ∨
        ∃ earlier request later, requests = earlier ++ request :: later ∧
          (session.run earlier).Fills id typeName request ∧
          ((session.run earlier).step request).Spares id later := by
  induction requests generalizing session with
  | nil => simp [Spares]
  | cons request rest ih =>
      change ((session.step request).run rest).factory.store.keeps id typeName = true ↔ _
      rw [ih, keeps_step, exists_split_cons, Spares]
      change _ ↔ _ ∨ (session.Fills id typeName request ∧ _) ∨ _
      tauto

/-- A request of a run makes the manager forget, other than by closing. -/
def Forgets (session : Session) (id : Metadata.ManagerId) (requests : List Request) : Prop :=
  ∃ earlier request later, requests = earlier ++ request :: later ∧
    request ≠ .close ∧ (session.run earlier).Empties id request

theorem forgets_cons (request : Request) (rest : List Request) :
    session.Forgets id (request :: rest) ↔
      (request ≠ .close ∧ session.Empties id request) ∨ (session.step request).Forgets id rest :=
  exists_split_cons

/-- The index leads to the manager of a validator until the first close after its making. -/
theorem Matched.mem_index_iff (matched : session.Matched) {handed : Handed}
    (given : handed ∈ session.handed) :
    handed.validator.manager ∈ session.factory.store.index.map Prod.snd ↔
      handed.era = session.closes := by
  refine ⟨?_, ?_⟩
  · intro listed
    obtain ⟨⟨key, id⟩, there, named⟩ := List.mem_map.mp listed
    obtain ⟨twin, twinGiven, era, _, manager⟩ :=
      (matched.current key.mark id).mp ⟨key, there, rfl⟩
    have same : handed.validator.manager = twin.validator.manager := named.symm.trans manager.symm
    exact ((matched.apart handed given twin twinGiven).mp same).1.trans era
  · intro era
    obtain ⟨key, there, _⟩ := (matched.current handed.mark handed.validator.manager).mpr
      ⟨handed, given, era, rfl, rfl⟩
    exact List.mem_map_of_mem there

theorem closes_step {request : Request} (other : request ≠ .close) :
    (session.step request).closes = session.closes := by
  cases request with
  | close => exact absurd rfl other
  | validator => rfl
  | context overrides => rfl
  | _ => exact closes_use _ _ _

/-- A run spares the manager of a validator exactly if nobody makes the manager forget and no close
reaches it, as the first close after the making of the validator does. -/
theorem Matched.spares_iff (matched : session.Matched) {handed : Handed}
    (given : handed ∈ session.handed) (requests : List Request) :
    session.Spares handed.validator.manager requests ↔
      (handed.era < session.closes ∨ .close ∉ requests) ∧
        ¬ session.Forgets handed.validator.manager requests := by
  induction requests generalizing session with
  | nil => simp [Spares, Forgets]
  | cons request rest ih =>
      have later := ih (matched.step request) (handed_subset_run session [request] given)
      rw [Spares, later, forgets_cons]
      by_cases closing : request = .close
      · subst closing
        have reached : session.Empties handed.validator.manager .close ↔
            handed.era = session.closes := matched.mem_index_iff given
        have past := matched.past handed given
        have afterwards : handed.era < (session.step .close).closes := Nat.lt_succ_of_le past
        have unreached : ¬ handed.era = session.closes ↔ handed.era < session.closes := by
          omega
        simp [reached, afterwards, unreached]
      · rw [closes_step closing]
        have other : ¬ .close = request := fun same => closing same.symm
        simp only [ne_eq, closing, not_false_eq_true, true_and, List.mem_cons, other, false_or,
          not_or]
        tauto

/-- In a run that ends with a close, the close comes after every other request. -/
theorem close_mem_of_split {requests earlier later : List Request} {request : Request}
    (other : request ≠ .close) (whole : requests ++ [.close] = earlier ++ request :: later) :
    .close ∈ later := by
  have last : (earlier ++ request :: later).getLast? = some .close := by
    rw [← whole, List.getLast?_concat]
  cases later with
  | nil =>
      rw [List.getLast?_concat] at last
      exact absurd (Option.some.inj last) other
  | cons next rest =>
      rw [List.getLast?_append_cons, List.getLast?_cons_cons] at last
      exact List.mem_of_getLast? last

/-- Some request had a manager answer for a bean type after a close had taken the manager out of the
index, and no later request made the manager forget. -/
def AskedLate (session : Session) (id : Metadata.ManagerId) (typeName : String)
    (requests : List Request) : Prop :=
  ∃ earlier number later, requests = earlier ++ .bean number typeName :: later ∧
    (∃ asked, (session.run earlier).handed[number]? = some asked ∧
      asked.validator.manager = id ∧ asked.era < (session.run earlier).closes ∧
      ((session.run earlier).answer asked.validator typeName).isSome = true) ∧
    ¬ ((session.run earlier).step (.bean number typeName)).Forgets id later

/-- After a run that ends with a close, managers keep what they were asked for too late. -/
theorem keeps_closed_iff {factory : Factory} (unused : factory.store = .empty)
    (requests : List Request) (id : Metadata.ManagerId) (typeName : String) :
    ((start factory).run (requests ++ [.close])).factory.store.keeps id typeName = true ↔
      (start factory).AskedLate id typeName (requests ++ [.close]) := by
  have matchedAt (earlier : List Request) : ((start factory).run earlier).Matched :=
    (matched_start unused).run earlier
  have nothing : (start factory).factory.store.keeps id typeName = false := by
    change factory.store.keeps id typeName = false
    rw [unused]
    rfl
  -- What a request builds is spared later if it comes after a close that matters to the manager.
  have spared {earlier later : List Request} {number : Nat} {holder : Handed}
      (numbered : ((start factory).run earlier).handed[number]? = some holder) :
      (((start factory).run earlier).step (.bean number typeName)).Spares
          holder.validator.manager later ↔
        (holder.era < ((start factory).run earlier).closes ∨ .close ∉ later) ∧
          ¬ (((start factory).run earlier).step (.bean number typeName)).Forgets
            holder.validator.manager later := by
    rw [((matchedAt earlier).step _).spares_iff
      (handed_subset_run _ [_] (List.mem_of_getElem? numbered)),
      closes_step fun closing => by cases closing]
  rw [keeps_run, nothing]
  simp only [Bool.false_eq_true, false_and, false_or]
  refine ⟨?_, ?_⟩
  · rintro ⟨earlier, request, later, whole, fills, spares⟩
    cases request with
    | bean number asked =>
        obtain ⟨rfl, holder, numbered, rfl, answered⟩ := fills
        have closed := close_mem_of_split (fun closing => by cases closing) whole
        obtain ⟨late | unclosed, kept⟩ := (spared numbered).mp spares
        · exact ⟨earlier, number, later, whole, ⟨holder, numbered, rfl, late, answered⟩, kept⟩
        · exact absurd closed unclosed
    | _ => exact fills.elim
  · rintro ⟨earlier, number, later, whole, ⟨holder, numbered, rfl, late, answered⟩, kept⟩
    exact ⟨earlier, .bean number typeName, later, whole, ⟨rfl, holder, numbered, rfl, answered⟩,
      (spared numbered).mpr ⟨.inl late, kept⟩⟩

/-- In every run on a factory that was built, a close leaves nothing in the index and no definition,
and it clears the supply of validators and the script evaluators: what the factory's own ones
remember is gone, and those that live outside are told to release what they have. The manager of a
validator keeps exactly the bean types that it was asked for after an earlier close had taken it out
of the index. So the managers of validators made since the last close keep nothing, and neither does
any manager that was not asked too late. -/
theorem closed_keeps_iff_of_built {shared : Component.Loader} {configuration : Configuration}
    {counters : Counters} {factory : Factory}
    (built : ((Factory.build shared configuration).run counters).result = .ok factory)
    (requests : List Request) :
    let whole := requests ++ [.close]
    let before := (start factory).run requests
    let session := (start factory).run whole
    session.factory.store.isEmpty = true ∧ session.factory.registry.isEmpty = true ∧
      (factory.settings.validators.role.external = false →
        session.factory.ledger.read factory.settings.validators.id = []) ∧
      (factory.settings.scripts.role.external = false →
        session.factory.ledger.read factory.settings.scripts.id = []) ∧
      before.factory.close.1.calls =
        (if factory.settings.validators.role.external then
          [.clearValidators factory.settings.validators.role.label]
        else []) ++
        (if factory.settings.scripts.role.external then
          [.clearScripts factory.settings.scripts.role.label]
        else []) ∧
      ∀ handed ∈ session.handed, ∃ manager,
        session.factory.store.manager? handed.validator.manager = some manager ∧
          (∀ typeName, manager.beans.contains typeName = true ↔
            (start factory).AskedLate handed.validator.manager typeName whole) ∧
          (manager.size = 0 ↔ ∀ typeName,
            ¬ (start factory).AskedLate handed.validator.manager typeName whole) ∧
          (handed.era = before.closes → manager.size = 0) := by
  intro whole before session
  have unused := Factory.store_of_built built
  have matched : before.Matched := (matched_start unused).run requests
  have last : session = before.step .close := run_append _ _ _
  have settings : before.factory.settings = factory.settings := settings_run (start factory) _
  refine ⟨?_, ?_, ?_, ?_, ?_, ?_⟩
  · rw [last]
    rfl
  · rw [last]
    rfl
  · intro standard
    rw [last, ← settings]
    exact before.factory.read_validators_close (settings ▸ standard)
  · intro standard
    rw [last, ← settings]
    exact before.factory.read_scripts_close (settings ▸ standard)
  · rw [before.factory.calls_close, settings]
  · intro handed given
    have given' : handed ∈ before.handed := by
      rw [last] at given
      exact given
    obtain ⟨manager, there, _⟩ := ((matched_start unused).run whole).linked.held handed given
    have keeps (typeName : String) : manager.beans.contains typeName = true ↔
        (start factory).AskedLate handed.validator.manager typeName whole := by
      rw [← keeps_closed_iff unused requests _ typeName, Metadata.Store.keeps, there]
      rfl
    have empty : manager.size = 0 ↔ ∀ typeName,
        ¬ (start factory).AskedLate handed.validator.manager typeName whole := by
      simp only [← keeps]
      exact Table.size_eq_zero_iff
    refine ⟨manager, there, keeps, empty, fun current => empty.mpr fun typeName late => ?_⟩
    have kept := (keeps_closed_iff unused requests _ typeName).mpr late
    change session.factory.store.keeps _ _ = true at kept
    rw [last, keeps_step] at kept
    exact kept.elim id fun spared => spared.2 ((matched.mem_index_iff given').mpr current)

/-- Two validators are asked for the same bean type, one of them around a close. The next close
reaches the manager of the other one only. It calls the supply of validators, which lives outside. -/
theorem closed_keeps_of_two_validators : ∃ factory : Factory,
    ((Factory.build Component.Registry.shared.loader
      { validators := some ⟨0, { label := "acme.Pool" }⟩ }).run { provider := 1 }).result =
        .ok factory ∧
      let requests : List Request := [.validator, .bean 0 "Order", .close, .bean 0 "Order",
        .validator, .bean 1 "Order"]
      let session := (start factory).run (requests ++ [.close])
      ((start factory).run requests).factory.close.1.calls = [.clearValidators "acme.Pool"] ∧
      (session.handed.map fun handed =>
          (session.factory.store.manager? handed.validator.manager).map Metadata.Manager.size) =
        [some 1, some 0] ∧
      ∀ handed ∈ session.handed, ∃ manager,
        session.factory.store.manager? handed.validator.manager = some manager ∧
          ∀ typeName, manager.beans.contains typeName = true ↔
            (start factory).AskedLate handed.validator.manager typeName (requests ++ [.close]) := by
  have facts : (((Factory.build Component.Registry.shared.loader
      { validators := some ⟨0, { label := "acme.Pool" }⟩ }).run { provider := 1 }).result.map
      fun factory =>
        let requests : List Request := [.validator, .bean 0 "Order", .close, .bean 0 "Order",
          .validator, .bean 1 "Order"]
        let session := (start factory).run (requests ++ [.close])
        (factory.settings.validators.role, factory.settings.scripts.role,
          session.handed.map fun handed =>
            (session.factory.store.manager? handed.validator.manager).map
              Metadata.Manager.size)) =
      .ok (⟨"acme.Pool", true⟩, .standard, [some 1, some 0]) := rfl
  obtain ⟨factory, built, facts⟩ := ok_of_map facts
  obtain ⟨supply, rest⟩ := Prod.mk.inj facts
  obtain ⟨scripts, sizes⟩ := Prod.mk.inj rest
  obtain ⟨_, _, _, _, calls, kept⟩ := closed_keeps_iff_of_built built [.validator,
    .bean 0 "Order", .close, .bean 0 "Order", .validator, .bean 1 "Order"]
  rw [supply, scripts] at calls
  refine ⟨factory, built, calls, sizes, fun handed given => ?_⟩
  obtain ⟨manager, there, keeps, _⟩ := kept handed given
  exact ⟨manager, there, keeps⟩

/-- A close leaves metadata behind: a validator that is asked once more between two closes has a
manager that the second one does not reach. -/
theorem close_misses_late_order : ∃ factory : Factory,
    ((Factory.build Component.Registry.shared.loader .empty).run {}).result = .ok factory ∧
      let session := (start factory).run [.validator, .close, .bean 0 "acme.Order", .close]
      ¬ ∀ handed ∈ session.handed, ∀ manager,
        session.factory.store.manager? handed.validator.manager = some manager →
          manager.size = 0 := by
  have sizes : (((Factory.build Component.Registry.shared.loader .empty).run {}).result.map
      fun factory =>
        let session := (start factory).run [.validator, .close, .bean 0 "acme.Order", .close]
        session.handed.map fun handed =>
          (session.factory.store.manager? handed.validator.manager).map Metadata.Manager.size) =
      .ok [some 1] := rfl
  obtain ⟨factory, built, sizes⟩ := ok_of_map sizes
  refine ⟨factory, built, fun forgotten => ?_⟩
  obtain ⟨handed, given, size⟩ := List.mem_map.mp
    (sizes ▸ List.mem_singleton.mpr rfl : some 1 ∈ _)
  obtain ⟨manager, there, one⟩ := Option.map_eq_some_iff.mp size
  rw [forgotten handed given manager there] at one
  cases one

end Session

end BeanConstraints
