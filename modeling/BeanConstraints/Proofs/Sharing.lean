/-
# Which validators share a manager

Validators of one factory share a metadata manager exactly if nobody closed the
factory between their making and their settings are the same as far as metadata
depends on them. A coarser rule would hand out metadata under the wrong parameter
names, a finer one would build it twice.

The invariant speaks of all validators ever handed out. Those made since the last
close are the ones that the index knows; the others keep managers that no index
leads to any more.
-/

import BeanConstraints.Component.Registry
import BeanConstraints.Proofs.Outline
import BeanConstraints.Proofs.Overlay
import BeanConstraints.Proofs.Session
import BeanConstraints.Proofs.Table
import Mathlib.Data.Finset.Card

namespace BeanConstraints

namespace Override

/-- Whether a change reaches what metadata depends on. -/
def reachesKey : Override → Bool
  | naming _ => true
  | rule _ _ => true
  | extractor _ => true
  | _ => false

end Override

namespace Settings

/-- Other changes leave the key alone, and what comes after them too. -/
theorem key_overridden_filter (settings other : Settings) (overrides : List Override)
    (same : settings.key = other.key) :
    (settings.overridden overrides).key =
      (other.overridden (overrides.filter Override.reachesKey)).key := by
  rw [overridden_eq_foldl, overridden_eq_foldl]
  induction overrides generalizing settings other with
  | nil => exact same
  | cons change rest ih =>
      have parts := same
      simp only [key, Metadata.Key.mk.injEq] at parts
      obtain ⟨naming, extractors, rules⟩ := parts
      rw [List.filter_cons]
      cases change <;> refine ih _ _ ?_ <;> simp [key, apply, naming, extractors, rules]

end Settings

namespace Session

/-- Managers and validators as they belong together. -/
structure Matched (session : Session) : Prop where
  linked : session.Linked
  past : ∀ handed ∈ session.handed, handed.era ≤ session.closes
  /-- One manager goes with one mark in one era. -/
  apart : ∀ first ∈ session.handed, ∀ second ∈ session.handed,
    first.validator.manager = second.validator.manager ↔
      first.era = second.era ∧ first.mark = second.mark
  /-- The index lists the validators of the current era and nothing else. -/
  current : ∀ mark id, (∃ key, (key, id) ∈ session.factory.store.index ∧ key.mark = mark) ↔
    ∃ handed ∈ session.handed,
      handed.era = session.closes ∧ handed.mark = mark ∧ handed.validator.manager = id
  single : (session.factory.store.index.map fun entry => entry.1.mark).Nodup

theorem matched_start {factory : Factory} (unused : factory.store = .empty) :
    (start factory).Matched where
  linked := linked_start unused
  past handed given := by
    simp [start] at given
  apart first given := by
    simp [start] at given
  current mark id := by
    simp [start, unused, Metadata.Store.empty]
  single := by
    simp [start, unused, Metadata.Store.empty]

/-- A step that adds no validator and leaves the index alone keeps everything in its place. -/
theorem Matched.of_index {session later : Session} (matched : session.Matched)
    (linked : later.Linked) (index : later.factory.store.index = session.factory.store.index)
    (handed : later.handed = session.handed) (closes : later.closes = session.closes) :
    later.Matched where
  linked := linked
  past := by
    rw [handed, closes]
    exact matched.past
  apart := by
    rw [handed]
    exact matched.apart
  current := by
    rw [index, handed, closes]
    exact matched.current
  single := by
    rw [index]
    exact matched.single

/-- A validator like one that is there already changes nothing. -/
theorem Matched.of_twin {session : Session} (matched : session.Matched) {twin new : Handed}
    (given : twin ∈ session.handed) (era : new.era = twin.era) (mark : new.mark = twin.mark)
    (manager : new.validator.manager = twin.validator.manager)
    (linked : ({ session with handed := session.handed ++ [new] } : Session).Linked) :
    ({ session with handed := session.handed ++ [new] } : Session).Matched := by
  -- Whatever holds of all validators before holds of the new one by way of its twin.
  have stand (handed : Handed) (listed : handed ∈ session.handed ++ [new]) :
      ∃ old ∈ session.handed, handed.era = old.era ∧ handed.mark = old.mark ∧
        handed.validator.manager = old.validator.manager := by
    rcases List.mem_append.mp listed with earlier | last
    · exact ⟨handed, earlier, rfl, rfl, rfl⟩
    · rw [List.mem_singleton.mp last]
      exact ⟨twin, given, era, mark, manager⟩
  refine ⟨linked, ?_, ?_, ?_, matched.single⟩
  · intro handed listed
    obtain ⟨old, there, sameEra, _⟩ := stand handed listed
    exact sameEra ▸ matched.past old there
  · intro first firstListed second secondListed
    obtain ⟨one, oneThere, oneEra, oneMark, oneManager⟩ := stand first firstListed
    obtain ⟨other, otherThere, otherEra, otherMark, otherManager⟩ := stand second secondListed
    rw [oneManager, otherManager, oneEra, otherEra, oneMark, otherMark]
    exact matched.apart one oneThere other otherThere
  · intro sought id
    rw [matched.current sought id]
    refine ⟨?_, ?_⟩
    · rintro ⟨handed, there, holds⟩
      exact ⟨handed, List.mem_append_left _ there, holds⟩
    · rintro ⟨handed, listed, holds⟩
      obtain ⟨old, there, sameEra, sameMark, sameManager⟩ := stand handed listed
      rw [sameEra, sameMark, sameManager] at holds
      exact ⟨old, there, holds⟩

/-- A validator of a new mark gets a manager that nobody else holds. -/
theorem Matched.of_new {session : Session} (matched : session.Matched) (settings : Settings)
    (missing : ∀ entry ∈ session.factory.store.index, entry.1.mark ≠ settings.key.mark)
    {later : Session}
    (index : later.factory.store.index = session.factory.store.index ++
      [(settings.key, session.factory.store.managers.length)])
    (handed : later.handed = session.handed ++
      [⟨⟨settings, session.factory.store.managers.length⟩, session.closes⟩])
    (closes : later.closes = session.closes) (linked : later.Linked) : later.Matched := by
  let new : Handed := ⟨⟨settings, session.factory.store.managers.length⟩, session.closes⟩
  have elsewhere (old : Handed) (there : old ∈ session.handed) :
      old.validator.manager ≠ new.validator.manager := by
    obtain ⟨manager, found, _⟩ := matched.linked.held old there
    exact Nat.ne_of_lt (session.factory.store.lt_of_manager? found)
  have unlike (old : Handed) (there : old ∈ session.handed) :
      ¬ (old.era = new.era ∧ old.mark = new.mark) := by
    rintro ⟨era, mark⟩
    obtain ⟨key, listed, same⟩ :=
      (matched.current old.mark old.validator.manager).mpr ⟨old, there, era, rfl, rfl⟩
    exact missing _ listed (same.trans mark)
  refine ⟨linked, ?_, ?_, ?_, ?_⟩
  · rw [handed, closes]
    intro one listed
    rcases List.mem_append.mp listed with earlier | last
    · exact matched.past one earlier
    · rw [List.mem_singleton.mp last]
  · rw [handed]
    intro first firstListed second secondListed
    rcases List.mem_append.mp firstListed with firstEarlier | firstLast <;>
      rcases List.mem_append.mp secondListed with secondEarlier | secondLast
    · exact matched.apart first firstEarlier second secondEarlier
    · rw [List.mem_singleton.mp secondLast]
      exact iff_of_false (elsewhere first firstEarlier) (unlike first firstEarlier)
    · rw [List.mem_singleton.mp firstLast]
      apply iff_of_false (fun same => elsewhere second secondEarlier same.symm)
      exact fun alike => unlike second secondEarlier ⟨alike.1.symm, alike.2.symm⟩
    · rw [List.mem_singleton.mp firstLast, List.mem_singleton.mp secondLast]
      exact iff_of_true rfl ⟨rfl, rfl⟩
  · rw [index, handed, closes]
    intro sought id
    simp only [List.mem_append, List.mem_singleton, or_and_right, exists_or, exists_eq_left,
      Prod.mk.injEq]
    refine or_congr (matched.current sought id) ⟨?_, ?_⟩
    · rintro ⟨key, ⟨rfl, rfl⟩, mark⟩
      exact ⟨trivial, mark, rfl⟩
    · rintro ⟨_, mark, rfl⟩
      exact ⟨settings.key, ⟨rfl, rfl⟩, mark⟩
  · rw [index, List.map_append, List.nodup_append]
    refine ⟨matched.single, List.nodup_singleton _, ?_⟩
    intro mark listed other last same
    obtain ⟨entry, there, rfl⟩ := List.mem_map.mp listed
    rw [List.map_singleton, List.mem_singleton] at last
    exact missing entry there (same.trans last)

theorem Matched.handOut {session : Session} (matched : session.Matched) (settings : Settings) :
    (session.handOut settings).Matched := by
  have linked := matched.linked.handOut settings
  revert linked
  apply handOut_cases (motive := fun later => later.Linked → later.Matched) settings
  · intro key id listed same linked
    obtain ⟨twin, given, era, mark, manager⟩ :=
      (matched.current key.mark id).mp ⟨key, listed, rfl⟩
    exact matched.of_twin given era.symm (same.symm.trans mark.symm) manager.symm linked
  · intro missing linked
    exact matched.of_new settings missing (Metadata.Store.index_file _ _ _) rfl rfl linked

/-- Closing leaves nothing in the index, and no validator is of the new era yet. -/
theorem Matched.step {session : Session} (matched : session.Matched) (request : Request) :
    (session.step request).Matched := by
  have linked := matched.linked.step request
  revert linked
  apply step_cases (motive := fun later => later.Linked → later.Matched)
  · intro settings _ _
    exact matched.handOut settings
  · intro id change _ linked
    exact matched.of_index linked rfl rfl rfl
  · intro ledger linked
    exact matched.of_index linked rfl rfl rfl
  · intro _ ledger linked
    have before (handed : Handed) (given : handed ∈ session.handed) :
        handed.era < session.closes + 1 :=
      Nat.lt_succ_of_le (matched.past handed given)
    refine ⟨linked, fun handed given => (before handed given).le, matched.apart, ?_, List.nodup_nil⟩
    intro mark id
    apply iff_of_false
    · rintro ⟨key, listed, _⟩
      exact List.not_mem_nil listed
    · rintro ⟨handed, given, era, _⟩
      exact (before handed given).ne era

theorem Matched.run {session : Session} (matched : session.Matched) (requests : List Request) :
    (session.run requests).Matched :=
  run_induction matched fun _ request _ kept => kept.step request

/-- The validators made since the last close. -/
def recent (session : Session) : List Handed :=
  session.handed.filter fun handed => handed.era == session.closes

/-- The store has one manager for each mark of the current era. -/
theorem Matched.size {session : Session} (matched : session.Matched) :
    session.factory.store.size = (session.recent.map Handed.mark).toFinset.card := by
  have same : (session.factory.store.index.map fun entry => entry.1.mark).toFinset =
      (session.recent.map Handed.mark).toFinset := by
    ext mark
    rw [List.mem_toFinset, List.mem_toFinset, List.mem_map, List.mem_map]
    refine ⟨?_, ?_⟩
    · rintro ⟨⟨key, id⟩, listed, rfl⟩
      obtain ⟨handed, given, era, mark, _⟩ := (matched.current key.mark id).mp ⟨key, listed, rfl⟩
      exact ⟨handed, List.mem_filter.mpr ⟨given, beq_iff_eq.mpr era⟩, mark⟩
    · rintro ⟨handed, listed, rfl⟩
      obtain ⟨given, era⟩ := List.mem_filter.mp listed
      obtain ⟨key, there, mark⟩ := (matched.current handed.mark handed.validator.manager).mpr
        ⟨handed, given, beq_iff_eq.mp era, rfl, rfl⟩
      exact ⟨_, there, mark⟩
  rw [← same, List.toFinset_card_of_nodup matched.single, List.length_map]
  rfl

/-- Two marks are one exactly if the providers are the same, the extractors answer alike and the
rules are equal. -/
theorem mark_eq_iff {first second : Handed} :
    first.mark = second.mark ↔
      first.validator.settings.naming.same second.validator.settings.naming = true ∧
        (∀ point, first.validator.settings.extractors.at? point =
          second.validator.settings.extractors.at? point) ∧
        first.validator.settings.flags.rules = second.validator.settings.flags.rules := by
  unfold Handed.mark Metadata.Key.mark Settings.key Instance.same
  rw [Prod.ext_iff, Prod.ext_iff, beq_iff_eq]
  refine and_congr_right fun _ => and_congr_left fun _ => ⟨?_, Extractors.ext_at?⟩
  intro same point
  exact congrArg (fun extractors => Extractors.at? extractors point) same

/-- In every run on a factory that was built, the validators are those asked for, and two of them
hold one manager exactly if the factory was not closed between their making, their providers of
parameter names are one and the same, their extractors answer alike at every point and their rules
for methods are equal. Managers report the settings of the validators that hold them, the store
counts the different settings since the last close, and the other changes of a context matter
neither to the manager nor to the factory. -/
theorem manager_eq_iff_of_built {shared : Component.Loader} {configuration : Configuration}
    {counters : Counters} {factory : Factory}
    (built : ((Factory.build shared configuration).run counters).result = .ok factory)
    (requests : List Request) :
    let session := (start factory).run requests
    session.handed.map recorded = made factory.settings 0 requests ∧
      (∀ first ∈ session.handed, ∀ second ∈ session.handed,
        first.validator.manager = second.validator.manager ↔
          first.era = second.era ∧
            first.validator.settings.naming.same second.validator.settings.naming = true ∧
            (∀ point, first.validator.settings.extractors.at? point =
              second.validator.settings.extractors.at? point) ∧
            first.validator.settings.flags.rules = second.validator.settings.flags.rules) ∧
      (∀ handed ∈ session.handed, ∃ manager,
        session.factory.store.manager? handed.validator.manager = some manager ∧
          manager.key.naming.same handed.validator.settings.naming = true ∧
          manager.key.extractors = handed.validator.settings.extractors ∧
          manager.key.rules = handed.validator.settings.flags.rules) ∧
      session.factory.store.size = (session.recent.map Handed.mark).toFinset.card ∧
      ∀ overrides,
        let asked := session.factory.validatorWith overrides
        let needed := session.factory.validatorWith (overrides.filter Override.reachesKey)
        asked.2.1 = needed.2.1 ∧ asked.2.2.manager = needed.2.2.manager := by
  intro session
  have matched : session.Matched :=
    (matched_start (Factory.store_of_built built)).run requests
  refine ⟨?_, ?_, ?_, matched.size, ?_⟩
  · exact handed_run (start factory) requests
  · intro first firstGiven second secondGiven
    rw [matched.apart first firstGiven second secondGiven, mark_eq_iff]
  · intro handed given
    obtain ⟨manager, there, mark⟩ := matched.linked.held handed given
    unfold Handed.mark Metadata.Key.mark at mark
    obtain ⟨naming, rest⟩ := Prod.mk.inj mark
    obtain ⟨extractors, rules⟩ := Prod.mk.inj rest
    exact ⟨manager, there, beq_iff_eq.mpr naming, extractors, rules⟩
  · intro overrides
    have key := Settings.key_overridden_filter session.factory.settings session.factory.settings
      overrides rfl
    simp only [Factory.validatorWith, Factory.validatorFrom, key, and_self]

/-- A context that only stops at the first violation shares the manager, one that relaxes a rule
does not, and after closing nobody shares with anyone from before. -/
theorem manager_eq_iff_of_four_validators : ∃ factory : Factory,
    ((Factory.build Component.Registry.shared.loader .empty).run {}).result = .ok factory ∧
      let session := (start factory).run [.validator, .context [.failFast true],
        .context [.rule .parallelParameters true], .close, .bean 1 "Order", .validator]
      session.handed.map (fun handed => handed.validator.manager) = [0, 0, 1, 2] ∧
        session.factory.store.size = (session.recent.map Handed.mark).toFinset.card ∧
        ∀ first ∈ session.handed, ∀ second ∈ session.handed,
          first.validator.manager = second.validator.manager ↔
            first.era = second.era ∧
              first.validator.settings.naming.same second.validator.settings.naming = true ∧
              (∀ point, first.validator.settings.extractors.at? point =
                second.validator.settings.extractors.at? point) ∧
              first.validator.settings.flags.rules = second.validator.settings.flags.rules := by
  have numbers : (((Factory.build Component.Registry.shared.loader .empty).run {}).result.map
      fun factory => ((start factory).run [.validator, .context [.failFast true],
        .context [.rule .parallelParameters true], .close, .bean 1 "Order",
        .validator]).handed.map fun handed => handed.validator.manager) = .ok [0, 0, 1, 2] := rfl
  cases built : ((Factory.build Component.Registry.shared.loader .empty).run {}).result with
  | error fault =>
      rw [built] at numbers
      cases numbers
  | ok factory =>
      rw [built] at numbers
      obtain ⟨_, shared, _, size, _⟩ := manager_eq_iff_of_built built [.validator,
        .context [.failFast true], .context [.rule .parallelParameters true], .close,
        .bean 1 "Order", .validator]
      exact ⟨factory, rfl, Except.ok.inj numbers, size, shared⟩

end Session

end BeanConstraints
