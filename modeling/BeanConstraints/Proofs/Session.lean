/-
# Sessions

A session is a factory in use: requests come one after the other, each to the
factory or to a validator that it has handed out before, and validators stay
usable however often the factory is closed. Every statement on runs goes by the
same induction, so it is stated once, with the few facts that no request changes.
-/

import BeanConstraints.Factory.Basic
import BeanConstraints.Proofs.Store

namespace BeanConstraints

/-- What is asked of a factory or of a validator, which goes by the number of its making. -/
inductive Request where
  | validator
  /-- A validator with some of the settings changed. -/
  | context (overrides : List Override)
  /-- The metadata of a bean type from a validator. -/
  | bean (number : Nat) (typeName : String)
  /-- Make the metadata manager of a validator forget what it has built. -/
  | forget (number : Nat)
  | acquire (number : Nat) (name : String)
  | prepare (number : Nat) (language : String)
  | close
  deriving Inhabited

/-- A validator that was handed out, and how often the factory had been closed before. -/
structure Handed where
  validator : Validator
  era : Nat

namespace Handed

/-- What the metadata key of the validator is compared by. -/
def mark (handed : Handed) : Nat × Extractors × MethodRules :=
  handed.validator.settings.key.mark

end Handed

/-- A factory in use, with the validators that it has handed out so far, in their order. -/
structure Session where
  factory : Factory
  handed : List Handed := []
  closes : Nat := 0

namespace Session

/-- Nothing was asked yet. -/
def start (factory : Factory) : Session := { factory }

/-- Hand out a validator with the given settings. -/
def handOut (session : Session) (settings : Settings) : Session :=
  let (_, factory, validator) := session.factory.validatorFrom settings
  { session with factory, handed := session.handed ++ [⟨validator, session.closes⟩] }

/-- Do something to the factory with the validator of a number, if there is one. -/
def use (session : Session) (number : Nat) (act : Validator → Factory) : Session :=
  match session.handed[number]? with
  | some handed => { session with factory := act handed.validator }
  | none => session

/-- Answer one request. -/
def step (session : Session) : Request → Session
  | .validator => session.handOut session.factory.settings
  | .context overrides => session.handOut (session.factory.settings.overridden overrides)
  | .bean number typeName =>
      session.use number fun validator => (session.factory.bean validator typeName).2.1
  | .forget number => session.use number session.factory.clearMetadata
  | .acquire number name =>
      session.use number fun validator => (session.factory.acquire validator.settings name).2
  | .prepare number language =>
      session.use number fun validator => (session.factory.prepare validator.settings language).2
  | .close => { session with factory := session.factory.close.2, closes := session.closes + 1 }

/-- Answer requests one after the other. -/
def run (session : Session) (requests : List Request) : Session :=
  requests.foldl step session

/-- The metadata that a validator would be given now. -/
def answer (session : Session) (validator : Validator) (typeName : String) :
    Option Metadata.Bean :=
  (session.factory.bean validator typeName).2.2.map Metadata.Built.bean

/-- What a manager made just now for some settings would build. -/
def rebuilt (session : Session) (settings : Settings) (typeName : String) : Option Metadata.Bean :=
  let manager : Metadata.Manager := ⟨settings.key, session.factory.sources, .empty, 0⟩
  (manager.build session.factory.registry typeName).2

@[simp]
theorem run_nil (session : Session) : session.run [] = session := rfl

@[simp]
theorem run_append (session : Session) (earlier later : List Request) :
    session.run (earlier ++ later) = (session.run earlier).run later :=
  List.foldl_append

/-- What holds at the start and is kept by every request holds after all of them. -/
theorem run_induction {motive : Session → Prop} {session : Session} {requests : List Request}
    (started : motive session)
    (kept : ∀ session, ∀ request ∈ requests, motive session → motive (session.step request)) :
    motive (session.run requests) := by
  induction requests generalizing session with
  | nil => exact started
  | cons request rest ih =>
      apply ih (kept session request (.head rest) started)
      intro session later listed
      exact kept session later (.tail request listed)

/-- A request is for a validator, for metadata, for forgetting it, for closing, or for something
that touches neither managers nor definitions. -/
theorem step_cases {motive : Session → Prop} {session : Session} {request : Request}
    (handedOut : ∀ settings, settings = session.factory.settings ∨
        (∃ overrides, request = .context overrides ∧
          settings = session.factory.settings.overridden overrides) →
      motive (session.handOut settings))
    (modified : ∀ id change, change = Metadata.Manager.clear ∨
        (∃ typeName, change = fun manager =>
          (manager.bean session.factory.registry typeName).2.1) →
      motive { session with
        factory := { session.factory with store := session.factory.store.modify id change } })
    (supplied : ∀ ledger, motive { session with factory := { session.factory with ledger } })
    (closed : request = .close → ∀ ledger, motive { session with
      factory := { session.factory with
        registry := .empty, store := session.factory.store.clear.2, ledger }
      closes := session.closes + 1 }) :
    motive (session.step request) := by
  have used (number : Nat) (act : Validator → Factory)
      (acted : ∀ validator, motive { session with factory := act validator }) :
      motive (session.use number act) := by
    unfold use
    split
    · exact acted _
    · exact supplied session.factory.ledger
  cases request with
  | validator => exact handedOut _ (.inl rfl)
  | context overrides => exact handedOut _ (.inr ⟨overrides, rfl, rfl⟩)
  | bean number typeName =>
      apply used number (fun validator => (session.factory.bean validator typeName).2.1)
      intro validator
      simp only [Factory.bean, Metadata.Store.bean_store]
      exact modified _ _ (.inr ⟨typeName, rfl⟩)
  | forget number =>
      exact used number session.factory.clearMetadata fun validator => modified _ _ (.inl rfl)
  | acquire number name =>
      exact used number (fun validator => (session.factory.acquire validator.settings name).2)
        fun validator => supplied _
  | prepare number language =>
      exact used number (fun validator => (session.factory.prepare validator.settings language).2)
        fun validator => supplied _
  | close => exact closed rfl _

/-- A validator shares the manager that the index has for its key, or else gets a new one. -/
theorem handOut_cases {motive : Session → Prop} {session : Session} (settings : Settings)
    (shared : ∀ key id, (key, id) ∈ session.factory.store.index →
      key.mark = settings.key.mark → motive { session with
        handed := session.handed ++ [⟨⟨settings, id⟩, session.closes⟩] })
    (made : (∀ entry ∈ session.factory.store.index, entry.1.mark ≠ settings.key.mark) →
      motive { session with
        factory := { session.factory with
          store := (session.factory.store.file settings.key session.factory.sources).2.1 }
        handed := session.handed ++
          [⟨⟨settings, session.factory.store.managers.length⟩, session.closes⟩] }) :
    motive (session.handOut settings) := by
  let store := session.factory.store
  rcases store.get_cases settings.key session.factory.sources with
    ⟨id, found, got⟩ | ⟨missing, got⟩
  · obtain ⟨key, listed, same⟩ := store.find?_eq_some found
    have result := shared key id listed same
    simpa [handOut, Factory.validatorFrom, store, got] using result
  · have result := made fun entry listed => store.find?_eq_none missing listed
    simpa [handOut, Factory.validatorFrom, store, got, Metadata.Store.file, Metadata.Store.add]
      using result

theorem closes_use (session : Session) (number : Nat) (act : Validator → Factory) :
    (session.use number act).closes = session.closes := by
  unfold use
  split <;> rfl

theorem closes_step_eq_zero (session : Session) (request : Request) :
    (session.step request).closes = 0 ↔ session.closes = 0 ∧ .close ≠ request := by
  cases request with
  | close => simp [step]
  | validator => simp [step, handOut]
  | context overrides => simp [step, handOut]
  | _ => simp [step, closes_use]

/-- Nothing was closed if nobody asked for it. -/
theorem closes_run_eq_zero (session : Session) (requests : List Request) :
    (session.run requests).closes = 0 ↔ session.closes = 0 ∧ .close ∉ requests := by
  induction requests generalizing session with
  | nil => simp
  | cons request rest ih =>
      change ((session.step request).run rest).closes = 0 ↔ _
      rw [ih, closes_step_eq_zero, List.mem_cons, not_or, and_assoc]

/-- No request changes the settings of the factory. -/
theorem settings_run (session : Session) (requests : List Request) :
    (session.run requests).factory.settings = session.factory.settings := by
  apply run_induction
    (motive := fun later => later.factory.settings = session.factory.settings) rfl
  intro now request _ same
  apply step_cases (motive := fun later => later.factory.settings = session.factory.settings)
  · intro _ _
    exact same
  · intro _ _ _
    exact same
  · intro _
    exact same
  · intro _ _
    exact same

/-- Validators stay on record. -/
theorem handed_subset_run (session : Session) (requests : List Request) :
    session.handed ⊆ (session.run requests).handed := by
  apply run_induction (motive := fun later => session.handed ⊆ later.handed) (fun _ => id)
  intro now request _ grown
  apply step_cases (motive := fun later => session.handed ⊆ later.handed)
  · intro settings _
    exact List.Subset.trans grown (List.subset_append_left _ _)
  · intro id change _
    exact grown
  · intro ledger
    exact grown
  · intro _ ledger
    exact grown

/-- The settings of the validators that requests ask for, each with the number of closes before
it. -/
def made (settings : Settings) (closes : Nat) : List Request → List (Settings × Nat)
  | [] => []
  | .validator :: rest => (settings, closes) :: made settings closes rest
  | .context overrides :: rest =>
      (settings.overridden overrides, closes) :: made settings closes rest
  | .close :: rest => made settings (closes + 1) rest
  | _ :: rest => made settings closes rest

/-- What is on record of a validator apart from its manager. -/
def recorded (handed : Handed) : Settings × Nat :=
  (handed.validator.settings, handed.era)

theorem handed_handOut (session : Session) (settings : Settings) :
    (session.handOut settings).handed.map recorded =
      session.handed.map recorded ++ [(settings, session.closes)] := by
  simp [handOut, recorded, Factory.validatorFrom]

/-- The validators of a run are those that were asked for, in their order. -/
theorem handed_run (session : Session) (requests : List Request) :
    (session.run requests).handed.map recorded =
      session.handed.map recorded ++ made session.factory.settings session.closes requests := by
  induction requests generalizing session with
  | nil => simp [made]
  | cons request rest ih =>
      have used (number : Nat) (act : Validator → Factory)
          (kept : ∀ validator, (act validator).settings = session.factory.settings) :
          ((session.use number act).run rest).handed.map recorded =
            session.handed.map recorded ++ made session.factory.settings session.closes rest := by
        rw [ih]
        unfold use
        split
        · rw [kept]
        · rfl
      change ((session.step request).run rest).handed.map recorded = _
      cases request with
      | validator => rw [ih, step, handed_handOut, List.append_assoc]; rfl
      | context overrides => rw [ih, step, handed_handOut, List.append_assoc]; rfl
      | close => rw [ih]; rfl
      | bean number typeName =>
          exact used number (fun validator => (session.factory.bean validator typeName).2.1)
            fun _ => rfl
      | forget number => exact used number session.factory.clearMetadata fun _ => rfl
      | acquire number name =>
          exact used number (fun validator => (session.factory.acquire validator.settings name).2)
            fun _ => rfl
      | prepare number language =>
          exact used number
            (fun validator => (session.factory.prepare validator.settings language).2) fun _ => rfl

/-- Identities lead to managers: those in the index to managers of the mark they are listed under,
and those that validators hold to managers of the validators' own marks. -/
structure Linked (session : Session) : Prop where
  indexed : ∀ entry ∈ session.factory.store.index, ∃ manager,
    session.factory.store.manager? entry.2 = some manager ∧ manager.key.mark = entry.1.mark
  held : ∀ handed ∈ session.handed, ∃ manager,
    session.factory.store.manager? handed.validator.manager = some manager ∧
      manager.key.mark = handed.mark

theorem linked_start {factory : Factory} (unused : factory.store = .empty) :
    (start factory).Linked where
  indexed entry listed := by
    simp [start, unused, Metadata.Store.empty] at listed
  held handed listed := by
    simp [start] at listed

/-- A step that keeps the mark of every manager that can be found keeps the links. -/
theorem Linked.of_marks {session later : Session} (linked : session.Linked)
    (index : later.factory.store.index ⊆ session.factory.store.index)
    (handed : later.handed = session.handed)
    (marks : ∀ id manager, session.factory.store.manager? id = some manager →
      ∃ next, later.factory.store.manager? id = some next ∧ next.key.mark = manager.key.mark) :
    later.Linked where
  indexed entry listed := by
    obtain ⟨manager, there, mark⟩ := linked.indexed entry (index listed)
    obtain ⟨next, found, same⟩ := marks _ manager there
    exact ⟨next, found, same.trans mark⟩
  held one listed := by
    obtain ⟨manager, there, mark⟩ := linked.held one (handed ▸ listed)
    obtain ⟨next, found, same⟩ := marks _ manager there
    exact ⟨next, found, same.trans mark⟩

theorem Linked.handOut {session : Session} (linked : session.Linked) (settings : Settings) :
    (session.handOut settings).Linked := by
  apply handOut_cases settings
  · intro key id listed same
    refine ⟨linked.indexed, fun handed given => ?_⟩
    rcases List.mem_append.mp given with earlier | new
    · exact linked.held handed earlier
    · obtain ⟨manager, there, mark⟩ := linked.indexed _ listed
      rw [List.mem_singleton.mp new]
      exact ⟨manager, there, mark.trans same⟩
  · intro _
    have kept (id : Metadata.ManagerId) (manager : Metadata.Manager)
        (there : session.factory.store.manager? id = some manager) :
        (session.factory.store.file settings.key session.factory.sources).2.1.manager? id =
          some manager := by
      have before := Metadata.Store.lt_of_manager? _ there
      rw [Metadata.Store.manager?_file, if_neg (Nat.ne_of_lt before), there]
    refine ⟨fun entry listed => ?_, fun handed given => ?_⟩
    · rcases List.mem_append.mp listed with earlier | new
      · obtain ⟨manager, there, mark⟩ := linked.indexed entry earlier
        exact ⟨manager, kept _ manager there, mark⟩
      · rw [List.mem_singleton.mp new]
        exact ⟨_, by rw [Metadata.Store.manager?_file, if_pos rfl], rfl⟩
    · rcases List.mem_append.mp given with earlier | new
      · obtain ⟨manager, there, mark⟩ := linked.held handed earlier
        exact ⟨manager, kept _ manager there, mark⟩
      · rw [List.mem_singleton.mp new]
        exact ⟨_, by rw [Metadata.Store.manager?_file, if_pos rfl], rfl⟩

/-- No request leads an identity astray. -/
theorem Linked.step {session : Session} (linked : session.Linked) (request : Request) :
    (session.step request).Linked := by
  apply step_cases
  · intro settings _
    exact linked.handOut settings
  · intro id change asked
    have mark (manager : Metadata.Manager) : (change manager).key.mark = manager.key.mark := by
      rcases asked with rfl | ⟨typeName, rfl⟩
      · rw [Metadata.Manager.clear_key]
      · rw [Metadata.Manager.bean_key]
    apply linked.of_marks
    · exact List.Subset.refl _
    · rfl
    · intro other manager there
      by_cases same : id = other
      · have next : (session.factory.store.modify id change).manager? other =
            some (change manager) := by
          rw [Metadata.Store.manager?_modify, if_pos same, there]
          rfl
        exact ⟨change manager, next, mark manager⟩
      · have next : (session.factory.store.modify id change).manager? other = some manager := by
          rw [Metadata.Store.manager?_modify, if_neg same, there]
        exact ⟨manager, next, rfl⟩
  · intro ledger
    exact linked.of_marks (List.Subset.refl _) rfl fun _ manager there => ⟨manager, there, rfl⟩
  · intro _ ledger
    apply linked.of_marks
    · exact List.nil_subset _
    · rfl
    · intro other manager there
      refine ⟨_, by rw [Metadata.Store.manager?_clear, there]; rfl, ?_⟩
      split
      · rw [Metadata.Manager.clear_key]
      · rfl

end Session

end BeanConstraints
