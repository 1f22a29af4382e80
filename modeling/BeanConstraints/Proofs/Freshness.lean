/-
# Metadata is never stale

Managers keep the metadata that they have built, validators share managers, and
closing a factory takes the definitions away from under managers that validators
go on using. None of this shows: whenever a validator is asked, its answer is what
a manager made just then would build from the validator's own settings.

What a manager keeps is up to date as long as definitions do not change. They
change at the first close only, and at that moment every manager is still in the
index and forgets what it has built. At later closes there is nothing to change.
-/

import BeanConstraints.Component.Registry
import BeanConstraints.Proofs.Bean
import BeanConstraints.Proofs.Outline
import BeanConstraints.Proofs.Session

namespace BeanConstraints

/-- One identity stands for one provider. -/
def Instance.Coherent {ρ : Type} (providers : List (Instance ρ)) : Prop :=
  ∀ first ∈ providers, ∀ second ∈ providers, first.id = second.id → first.role = second.role

/-- The provider of parameter names that a change brings in. -/
def Override.naming? : Override → Option (Instance ParameterNaming)
  | naming provider => some provider
  | _ => none

/-- The providers of parameter names that a request brings in. -/
def Request.namings : Request → List (Instance ParameterNaming)
  | context overrides => overrides.filterMap Override.naming?
  | _ => []

/-- Changed settings name parameters as before or by a provider that was brought in. -/
theorem Settings.naming_overridden (settings : Settings) (overrides : List Override) :
    (settings.overridden overrides).naming ∈
      settings.naming :: overrides.filterMap Override.naming? := by
  rw [overridden_eq_foldl]
  induction overrides generalizing settings with
  | nil => exact .head _
  | cons change rest ih =>
      rw [List.foldl_cons]
      rcases List.mem_cons.mp (ih (settings.apply change)) with same | later
      · rw [same]
        cases change with
        | naming provider => exact .tail _ (.head _)
        | _ => exact .head _
      · rw [List.filterMap_cons]
        cases change with
        | naming provider => exact .tail _ (.tail _ later)
        | _ => exact .tail _ later

namespace Session

/-- Nothing that managers keep is stale, and nothing else that answers depend on has changed since
the factory was built, apart from the definitions, which closing takes away. -/
structure Current (origin : Factory) (namings : List (Instance ParameterNaming))
    (session : Session) : Prop where
  linked : session.Linked
  settings : session.factory.settings = origin.settings
  sources : session.factory.sources = origin.sources
  registry : session.factory.registry = if session.closes = 0 then origin.registry else .empty
  /-- Every manager works with the sources of the factory and a known provider. -/
  managers : ∀ id manager, session.factory.store.manager? id = some manager →
    manager.sources = origin.sources ∧ manager.key.naming ∈ namings ∧
      manager.IsFresh session.factory.registry
  held : ∀ handed ∈ session.handed, handed.validator.settings.naming ∈ namings
  /-- Until the first close, the index finds every manager. -/
  found : session.closes = 0 → ∀ id manager, session.factory.store.manager? id = some manager →
    id ∈ session.factory.store.index.map Prod.snd

theorem current_start {factory : Factory} (unused : factory.store = .empty)
    (namings : List (Instance ParameterNaming)) : (start factory).Current factory namings where
  linked := linked_start unused
  settings := rfl
  sources := rfl
  registry := rfl
  managers id manager there := by
    simp [start, unused, Metadata.Store.empty, Metadata.Store.manager?] at there
  held handed given := by
    simp [start] at given
  found _ id manager there := by
    simp [start, unused, Metadata.Store.empty, Metadata.Store.manager?] at there

variable {origin : Factory} {namings : List (Instance ParameterNaming)} {session : Session}

/-- A new validator shares a manager or gets one that keeps nothing yet. -/
theorem Current.handOut (current : session.Current origin namings) {settings : Settings}
    (known : settings.naming ∈ namings) : (session.handOut settings).Current origin namings := by
  have linked := current.linked.handOut settings
  revert linked
  have everyone (manager : Metadata.ManagerId) (handed : Handed)
      (given : handed ∈ session.handed ++ [⟨⟨settings, manager⟩, session.closes⟩]) :
      handed.validator.settings.naming ∈ namings := by
    rcases List.mem_append.mp given with earlier | new
    · exact current.held handed earlier
    · rw [List.mem_singleton.mp new]
      exact known
  refine handOut_cases (motive := fun later => later.Linked → later.Current origin namings)
    settings ?_ ?_
  · intro key id _ _ linked
    exact { current with linked, held := everyone id }
  · intro _ linked
    -- A manager found now is the new one or was found before.
    have which (id : Metadata.ManagerId) (manager : Metadata.Manager)
        (there : (session.factory.store.file settings.key session.factory.sources).2.1.manager? id =
          some manager) :
        (id = session.factory.store.managers.length ∧
            manager = ⟨settings.key, session.factory.sources, .empty, 0⟩) ∨
          session.factory.store.manager? id = some manager := by
      rw [Metadata.Store.manager?_file] at there
      split at there
      · rename_i new
        exact .inl ⟨new, (Option.some.inj there).symm⟩
      · exact .inr there
    refine ⟨linked, current.settings, current.sources, current.registry, ?_, everyone _, ?_⟩
    · intro id manager there
      rcases which id manager there with ⟨_, rfl⟩ | earlier
      · exact ⟨current.sources, known, Metadata.Manager.isFresh_of_empty _ rfl⟩
      · exact current.managers id manager earlier
    · intro unclosed id manager there
      rw [Metadata.Store.index_file, List.map_append]
      rcases which id manager there with ⟨rfl, _⟩ | earlier
      · exact List.mem_append_right _ (.head _)
      · exact List.mem_append_left _ (current.found unclosed id manager earlier)

/-- Being asked or told to forget leaves a manager with what it would build now. -/
theorem Current.modify (current : session.Current origin namings) {id : Metadata.ManagerId}
    {change : Metadata.Manager → Metadata.Manager}
    (asked : change = Metadata.Manager.clear ∨
      ∃ typeName, change = fun manager => (manager.bean session.factory.registry typeName).2.1)
    {later : Session} (linked : later.Linked)
    (changed : later = { session with
      factory := { session.factory with store := session.factory.store.modify id change } }) :
    later.Current origin namings := by
  subst changed
  have kept (manager : Metadata.Manager) (fresh : manager.IsFresh session.factory.registry) :
      (change manager).key = manager.key ∧ (change manager).sources = manager.sources ∧
        (change manager).IsFresh session.factory.registry := by
    rcases asked with rfl | ⟨typeName, rfl⟩
    · exact ⟨rfl, rfl, Metadata.Manager.isFresh_of_empty _ rfl⟩
    · exact ⟨manager.bean_key _ _, manager.bean_sources _ _, fresh.bean typeName⟩
  -- A manager found now is a manager found before, changed or not.
  have which (other : Metadata.ManagerId) (next : Metadata.Manager)
      (there : (session.factory.store.modify id change).manager? other = some next) :
      ∃ manager, session.factory.store.manager? other = some manager ∧
        (next = change manager ∨ next = manager) := by
    rw [Metadata.Store.manager?_modify] at there
    split at there
    · obtain ⟨manager, before, rfl⟩ := Option.map_eq_some_iff.mp there
      exact ⟨manager, before, .inl rfl⟩
    · exact ⟨next, there, .inr rfl⟩
  refine ⟨linked, current.settings, current.sources, current.registry, ?_, current.held, ?_⟩
  · intro other next there
    obtain ⟨manager, before, rfl | rfl⟩ := which other next there
    · obtain ⟨sources, naming, fresh⟩ := current.managers other manager before
      obtain ⟨sameKey, sameSources, stillFresh⟩ := kept manager fresh
      exact ⟨sameSources.trans sources, sameKey ▸ naming, stillFresh⟩
    · exact current.managers other _ before
  · intro unclosed other next there
    obtain ⟨manager, before, _⟩ := which other next there
    exact current.found unclosed other manager before

/-- At the first close every manager forgets what it has built, and later there are no definitions
that could go. -/
theorem Current.close (current : session.Current origin namings) {ledger : Ledger}
    {later : Session} (linked : later.Linked)
    (changed : later = { session with
      factory := { session.factory with
        registry := .empty, store := session.factory.store.clear.2, ledger }
      closes := session.closes + 1 }) : later.Current origin namings := by
  subst changed
  refine ⟨linked, current.settings, current.sources, ?_, ?_, current.held, ?_⟩
  · exact (if_neg (Nat.succ_ne_zero _)).symm
  · intro id next there
    rw [Metadata.Store.manager?_clear] at there
    obtain ⟨manager, before, rfl⟩ := Option.map_eq_some_iff.mp there
    obtain ⟨sources, naming, fresh⟩ := current.managers id manager before
    split
    · exact ⟨sources, naming, Metadata.Manager.isFresh_of_empty _ rfl⟩
    · rename_i missing
      have closed : session.closes ≠ 0 := fun unclosed =>
        missing (current.found unclosed id manager before)
      have nothing : session.factory.registry = .empty := current.registry.trans (if_neg closed)
      exact ⟨sources, naming, nothing ▸ fresh⟩
  · intro unclosed
    exact absurd unclosed (Nat.succ_ne_zero _)

/-- No request makes anything stale. -/
theorem Current.step (current : session.Current origin namings) {request : Request}
    (known : ∀ naming ∈ origin.settings.naming :: request.namings, naming ∈ namings) :
    (session.step request).Current origin namings := by
  have linked := current.linked.step request
  revert linked
  apply step_cases (motive := fun later => later.Linked → later.Current origin namings)
  · intro settings asked _
    refine current.handOut (known _ ?_)
    rw [current.settings] at asked
    rcases asked with rfl | ⟨overrides, rfl, rfl⟩
    · exact .head _
    · exact origin.settings.naming_overridden overrides
  · intro id change asked linked
    exact current.modify asked linked rfl
  · intro ledger linked
    exact { current with linked }
  · intro _ ledger linked
    exact current.close linked rfl

/-- An answer is what would be built now. -/
theorem Current.answer (current : session.Current origin namings)
    (coherent : Instance.Coherent namings) {handed : Handed} (given : handed ∈ session.handed)
    (typeName : String) :
    session.answer handed.validator typeName =
      session.rebuilt handed.validator.settings typeName := by
  obtain ⟨manager, there, mark⟩ := current.linked.held handed given
  obtain ⟨sources, naming, fresh⟩ := current.managers _ manager there
  have role : manager.key.naming.role = handed.validator.settings.naming.role :=
    coherent _ naming _ (current.held handed given) (congrArg Prod.fst mark)
  have asked : session.answer handed.validator typeName =
      (manager.bean session.factory.registry typeName).2.2.map Metadata.Built.bean :=
    congrArg (Option.map Metadata.Built.bean)
      (Metadata.Store.bean_answer session.factory.store there)
  rw [asked, fresh.answer, rebuilt]
  rw [Metadata.Manager.build, role, sources, ← current.sources]
  rfl

/-- Every run on a new factory leaves nothing stale, as long as all providers are known. -/
theorem current_run {factory : Factory} (unused : factory.store = .empty)
    {requests : List Request}
    (known : factory.settings.naming :: requests.flatMap Request.namings ⊆ namings) :
    ((start factory).run requests).Current factory namings := by
  apply run_induction (current_start unused namings)
  intro session request listed current
  apply current.step
  intro naming new
  apply known
  rcases List.mem_cons.mp new with rfl | brought
  · exact .head _
  · exact .tail _ (List.mem_flatMap.mpr ⟨request, listed, brought⟩)

/-- What would be built after closing is what would have been built before, without checkers. -/
theorem Current.rebuilt_closed (current : session.Current origin namings)
    (closed : session.closes ≠ 0) (settings : Settings) (typeName : String) :
    session.rebuilt settings typeName =
      ((start origin).rebuilt settings typeName).map Metadata.Bean.withoutCheckers := by
  have nothing : session.factory.registry = .empty := current.registry.trans (if_neg closed)
  rw [rebuilt, Metadata.Manager.build, nothing, current.sources]
  exact Metadata.build_empty _ _ _ _

/-- Until the first close, what would be built is what would have been built at the start. -/
theorem Current.rebuilt_unclosed (current : session.Current origin namings)
    (unclosed : session.closes = 0) (settings : Settings) (typeName : String) :
    session.rebuilt settings typeName = (start origin).rebuilt settings typeName := by
  have same : session.factory.registry = origin.registry := current.registry.trans (if_pos unclosed)
  rw [rebuilt, same, current.sources]
  rfl

/-- In every run on a factory that was built, the metadata that any validator is given is what a
manager made just then from its own settings would build, with the sources that the factory has
had all along and with its definitions of the moment. Once the factory was closed, that is what it
was before, with the same constraints under the same names and from the same sources, and without
any checker. -/
theorem answer_eq_rebuilt_of_built {shared : Component.Loader} {configuration : Configuration}
    {counters : Counters} {factory : Factory}
    (built : ((Factory.build shared configuration).run counters).result = .ok factory)
    (requests : List Request)
    (coherent : Instance.Coherent
      (factory.settings.naming :: requests.flatMap Request.namings)) :
    let session := (start factory).run requests
    session.factory.sources = factory.sources ∧
      (∀ handed ∈ session.handed, ∀ typeName,
        session.answer handed.validator typeName =
          session.rebuilt handed.validator.settings typeName) ∧
      (.close ∈ requests → ∀ handed ∈ session.handed, ∀ typeName,
        session.answer handed.validator typeName =
          ((start factory).rebuilt handed.validator.settings typeName).map
            Metadata.Bean.withoutCheckers) ∧
      ∀ earlier later, requests = earlier ++ later → .close ∉ earlier → .close ∈ later →
        ∀ handed ∈ ((start factory).run earlier).handed, ∀ typeName,
          session.answer handed.validator typeName =
            (((start factory).run earlier).answer handed.validator typeName).map
              Metadata.Bean.withoutCheckers := by
  intro session
  have unused := Factory.store_of_built built
  have current := current_run unused (List.Subset.refl
    (factory.settings.naming :: requests.flatMap Request.namings))
  have closing (asked : .close ∈ requests) : session.closes ≠ 0 :=
    fun none => ((closes_run_eq_zero (start factory) requests).mp none).2 asked
  have afterwards (asked : .close ∈ requests) (handed : Handed) (given : handed ∈ session.handed)
      (typeName : String) : session.answer handed.validator typeName =
        ((start factory).rebuilt handed.validator.settings typeName).map
          Metadata.Bean.withoutCheckers :=
    (current.answer coherent given typeName).trans
      (current.rebuilt_closed (closing asked) _ typeName)
  refine ⟨current.sources, fun handed given => current.answer coherent given, afterwards, ?_⟩
  intro earlier later whole unclosed closed handed given typeName
  have known : factory.settings.naming :: earlier.flatMap Request.namings ⊆
      factory.settings.naming :: requests.flatMap Request.namings := by
    rw [whole, List.flatMap_append]
    exact List.cons_subset_cons _ (List.subset_append_left _ _)
  have before := current_run unused known
  have still : handed ∈ session.handed := by
    have grown := handed_subset_run ((start factory).run earlier) later given
    rwa [← run_append, ← whole] at grown
  have asked : .close ∈ requests := whole ▸ List.mem_append_right earlier closed
  rw [afterwards asked handed still typeName, before.answer coherent given typeName,
    before.rebuilt_unclosed ((closes_run_eq_zero (start factory) earlier).mpr ⟨rfl, unclosed⟩)]

/-- A parameter of an order must be there, which a checker of its own makes sure of as well. -/
def orders : Configuration where
  mappings := [⟨1, .preSupplied, [⟨⟨"constraints.NotNull"⟩, [⟨"Strict", "Object"⟩], true⟩],
    [⟨"Order", [⟨.parameter "place" 0 2, ⟨"constraints.NotNull"⟩⟩]⟩]⟩]

/-- A provider that knows the parameters. -/
def spelled : Instance ParameterNaming where
  id := 9
  role := { label := "spelled", names := fun _ _ => some ["item", "count"] }

/-- Two validators that name a parameter differently are asked around a close, one of them for the
first time only afterwards. -/
theorem answer_eq_rebuilt_of_orders : ∃ factory : Factory,
    ((Factory.build Component.Registry.shared.loader orders).run {}).result = .ok factory ∧
      let session := (start factory).run
        [.validator, .context [.naming spelled], .bean 0 "Order", .close, .bean 1 "Order"]
      (session.handed.map fun handed =>
          (session.answer handed.validator "Order").map fun bean =>
            bean.constraints.map fun held => (held.elementName, held.checkers)) =
        [some [("place.arg0", [])], some [("place.item", [])]] ∧
      ∀ handed ∈ session.handed, ∀ typeName,
        session.answer handed.validator typeName =
          session.rebuilt handed.validator.settings typeName := by
  have computed : (((Factory.build Component.Registry.shared.loader orders).run {}).result.map
      fun factory =>
        let session := (start factory).run
          [.validator, .context [.naming spelled], .bean 0 "Order", .close, .bean 1 "Order"]
        (factory.settings.naming.id, session.handed.map fun handed =>
          (session.answer handed.validator "Order").map fun bean =>
            bean.constraints.map fun held => (held.elementName, held.checkers))) =
      .ok (2, [some [("place.arg0", [])], some [("place.item", [])]]) := rfl
  cases built : ((Factory.build Component.Registry.shared.loader orders).run {}).result with
  | error fault =>
      rw [built] at computed
      cases computed
  | ok factory =>
      rw [built] at computed
      obtain ⟨id, names⟩ := Prod.mk.inj (Except.ok.inj computed)
      have coherent : Instance.Coherent [factory.settings.naming, spelled] := by
        intro first firstListed second secondListed same
        simp only [List.mem_cons, List.not_mem_nil, or_false] at firstListed secondListed
        rcases firstListed with rfl | rfl <;> rcases secondListed with rfl | rfl
        · rfl
        · rw [id] at same
          cases same
        · rw [id] at same
          cases same
        · rfl
      obtain ⟨_, fresh, _⟩ := answer_eq_rebuilt_of_built built
        [.validator, .context [.naming spelled], .bean 0 "Order", .close, .bean 1 "Order"] coherent
      exact ⟨factory, rfl, names, fresh⟩

end Session

end BeanConstraints
