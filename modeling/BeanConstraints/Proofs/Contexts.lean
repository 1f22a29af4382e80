/-
# Changed settings

A validator can be made in a context, in which any number of changes are asked for before
the validator is. Each part of the settings is what the last change of that part says, or
else what the factory has, the three rules for methods and the other flags each for itself.
Extractors are the one thing that changes add to. So changes of different parts, and of
extractors at different points, can be made in any order.

Several contexts may be open at once, while the factory is used for other things. Still a
context leaves no trace before its validator is asked for, and then it leaves the same
traces as if all of its changes had been made at that moment: a validator, and at most one
new manager in the store.
-/

import BeanConstraints.Component.Registry
import BeanConstraints.Proofs.Outline
import BeanConstraints.Proofs.Overlay
import BeanConstraints.Proofs.Resolution
import BeanConstraints.Proofs.Session

namespace BeanConstraints

/-- A part of the settings that is replaced as a whole. -/
inductive Part where
  | interpolator
  | traversal
  | naming
  | clock
  | validators
  | scripts
  | flag (flag : Flag)
  deriving DecidableEq

namespace Part

/-- What a part is replaced by. -/
def Value : Part → Type
  | interpolator => Instance Interpolator
  | traversal => Instance Traversal
  | naming => Instance ParameterNaming
  | clock => Instance Clock
  | validators => Instance ValidatorSupply
  | scripts => Instance ScriptEvaluators
  | flag _ => Bool

end Part

/-- What a change is about: a part of the settings, or the extractor at a point. -/
inductive Target where
  | part (part : Part)
  | point (point : ExtractionPoint)
  deriving DecidableEq

namespace Override

/-- What a change is about. -/
def target : Override → Target
  | interpolator _ => .part .interpolator
  | traversal _ => .part .traversal
  | naming _ => .part .naming
  | clock _ => .part .clock
  | validators _ => .part .validators
  | scripts _ => .part .scripts
  | failFast _ => .part (.flag .failFast)
  | rule changed _ => .part (.flag (.rule changed))
  | resultCache _ => .part (.flag .resultCache)
  | extractor added => .point added.point

/-- What a change replaces a part by, if it is about that part. -/
def value? : Override → (part : Part) → Option part.Value
  | interpolator provider, .interpolator => some provider
  | traversal provider, .traversal => some provider
  | naming provider, .naming => some provider
  | clock provider, .clock => some provider
  | validators provider, .validators => some provider
  | scripts provider, .scripts => some provider
  | failFast enabled, .flag .failFast => some enabled
  | rule changed relaxed, .flag (.rule other) => if other = changed then some relaxed else none
  | resultCache enabled, .flag .resultCache => some enabled
  | _, _ => none

/-- The extractor that a change adds. -/
def extractor? : Override → Option Extractor
  | extractor added => some added
  | _ => none

/-- What the last change of a part replaces it by. -/
def latest? (overrides : List Override) (part : Part) : Option part.Value :=
  (overrides.filterMap fun override => override.value? part).getLast?

theorem target_of_value? {override : Override} {part : Part} {value : part.Value}
    (replaced : override.value? part = some value) : override.target = .part part := by
  unfold value? at replaced
  split at replaced
  case h_8 rule relaxed other =>
    split at replaced
    · rename_i same
      rw [same]
      rfl
    · cases replaced
  case h_10 => cases replaced
  all_goals rfl

theorem target_of_extractor? {override : Override} {extractor : Extractor}
    (added : override.extractor? = some extractor) :
    override.target = .point extractor.point := by
  unfold extractor? at added
  split at added
  · cases added
    rfl
  · cases added

/-- The same changes in another order, in which changes about one thing stay in the order that
they had. -/
def Reordered (overrides other : List Override) : Prop :=
  ∀ target, (overrides.filter fun override => override.target = target) =
    other.filter fun override => override.target = target

/-- Neighbours about different things may change places. -/
theorem reordered_swap {first second : Override} (apart : first.target ≠ second.target)
    (earlier later : List Override) :
    Reordered (earlier ++ first :: second :: later) (earlier ++ second :: first :: later) := by
  intro target
  have pair : ([first, second].filter fun override => override.target = target) =
      [second, first].filter fun override => override.target = target := by
    by_cases atFirst : first.target = target
    · have notSecond : second.target ≠ target := fun same => apart (atFirst.trans same.symm)
      simp [atFirst, notSecond]
    · simp [List.filter_cons, atFirst]
  have middle (one two : Override) :
      earlier ++ one :: two :: later = earlier ++ [one, two] ++ later := by
    simp
  rw [middle, middle, List.filter_append, List.filter_append, pair, List.filter_append,
    List.filter_append]

/-- What changes about one thing say does not depend on the others. -/
theorem Reordered.filterMap_eq {overrides other : List Override} {β : Type}
    (reordered : Reordered overrides other) (target : Target) {f : Override → Option β}
    (only : ∀ override said, f override = some said → override.target = target) :
    overrides.filterMap f = other.filterMap f := by
  have alone (changes : List Override) : changes.filterMap f =
      (changes.filter fun override => override.target = target).filterMap f := by
    rw [List.filterMap_filter]
    apply List.filterMap_congr
    intro override _
    by_cases about : override.target = target
    · simp [about]
    · have silent : f override = none :=
        Option.eq_none_iff_forall_ne_some.mpr fun said there => about (only override said there)
      simp [about, silent]
  rw [alone, reordered target, ← alone]

end Override

namespace Settings

/-- What a part of the settings is. -/
def get (settings : Settings) : (part : Part) → part.Value
  | .interpolator => settings.interpolator
  | .traversal => settings.traversal
  | .naming => settings.naming
  | .clock => settings.clock
  | .validators => settings.validators
  | .scripts => settings.scripts
  | .flag flag => settings.flags.get flag

/-- There is nothing to settings but their parts and their extractors. -/
theorem ext_get {first second : Settings} (alike : ∀ part, first.get part = second.get part)
    (extractors : first.extractors = second.extractors) : first = second := by
  obtain ⟨interpolator, traversal, naming, clock, validators, scripts, _, flags⟩ := first
  have inFlags : flags = second.flags := Flags.ext_get fun flag => alike (.flag flag)
  have inInterpolator : interpolator = second.interpolator := alike .interpolator
  have inTraversal : traversal = second.traversal := alike .traversal
  have inNaming : naming = second.naming := alike .naming
  have inClock : clock = second.clock := alike .clock
  have inValidators : validators = second.validators := alike .validators
  have inScripts : scripts = second.scripts := alike .scripts
  cases extractors
  rw [inFlags, inInterpolator, inTraversal, inNaming, inClock, inValidators, inScripts]

variable (settings : Settings)

/-- A change replaces the part that it is about and no other. -/
theorem get_apply (override : Override) (part : Part) :
    (settings.apply override).get part = (override.value? part).getD (settings.get part) := by
  cases override with
  | rule rule relaxed =>
      cases part with
      | flag flag =>
          cases flag with
          | rule other =>
              change (settings.flags.rules.set rule relaxed).allows other =
                (if other = rule then some relaxed else none).getD
                  (settings.flags.rules.allows other)
              rw [MethodRules.allows_set]
              split <;> rfl
          | _ => rfl
      | _ => rfl
  | _ =>
      cases part with
      | flag flag => cases flag <;> rfl
      | _ => rfl

theorem extractors_apply (override : Override) :
    (settings.apply override).extractors =
      settings.extractors.overlay override.extractor?.toList := by
  cases override <;> rfl

/-- The last change of a part counts. -/
theorem get_overridden (overrides : List Override) (part : Part) :
    (settings.overridden overrides).get part =
      (Override.latest? overrides part).getD (settings.get part) := by
  rw [overridden_eq_foldl]
  induction overrides using List.reverseRecOn with
  | nil => rfl
  | append_singleton earlier override ih =>
      rw [List.foldl_append, List.foldl_cons, List.foldl_nil, get_apply, ih, Override.latest?,
        Override.latest?, List.filterMap_append, List.getLast?_append]
      cases replaced : override.value? part with
      | none => simp [replaced]
      | some value => simp [replaced]

/-- All extractors that changes add lie over those of the settings, in their order. -/
theorem extractors_overridden (overrides : List Override) :
    (settings.overridden overrides).extractors =
      settings.extractors.overlay (overrides.filterMap Override.extractor?) := by
  rw [overridden_eq_foldl]
  induction overrides using List.reverseRecOn with
  | nil => rfl
  | append_singleton earlier override ih =>
      rw [List.foldl_append, List.foldl_cons, List.foldl_nil, extractors_apply, ih,
        Extractors.overlay_append, List.filterMap_append]
      cases added : override.extractor? <;> simp [added]

/-- Changes about different things can be made in any order. -/
theorem overridden_of_reordered {overrides other : List Override}
    (reordered : Override.Reordered overrides other) :
    settings.overridden overrides = settings.overridden other := by
  apply ext_get
  · intro part
    have values := reordered.filterMap_eq (.part part) (f := fun override => override.value? part)
      fun override value => Override.target_of_value?
    rw [get_overridden, get_overridden, Override.latest?, Override.latest?, values]
  · rw [extractors_overridden, extractors_overridden]
    apply Extractors.ext_at?
    intro point
    have here := reordered.filterMap_eq (.point point)
      (f := fun override => override.extractor?.filter fun extractor => extractor.point = point)
      fun override extractor kept => by
        obtain ⟨added, served⟩ := Option.filter_eq_some_iff.mp kept
        rw [Override.target_of_extractor? added, of_decide_eq_true served]
    rw [Extractors.at?_overlay, Extractors.at?_overlay, List.filter_filterMap,
      List.filter_filterMap, here]

end Settings

namespace Factory

/-- While a key is found, a validator for it changes nothing in the factory. -/
theorem validatorFrom_of_found {factory : Factory} {settings : Settings}
    {id : Metadata.ManagerId} (found : factory.store.find? settings.key = some id) :
    (factory.validatorFrom settings).2 = (factory, ⟨settings, id⟩) := by
  rcases factory.store.get_cases settings.key factory.sources with
    ⟨_, there, got⟩ | ⟨missing, _⟩
  · cases found.symm.trans there
    simp [validatorFrom, got]
  · cases found.symm.trans missing

end Factory

namespace Session

variable (session : Session)

/-- What handing out a validator does: the validator is put on record, and the store has its
manager, which may be a new one. Nothing else changes. -/
structure HandsOut (settings : Settings) (validator : Validator) (later : Session) : Prop where
  asked : validator.settings = settings
  handed : later.handed = session.handed ++ [⟨validator, session.closes⟩]
  closes : later.closes = session.closes
  factory : later.factory = { session.factory with store := later.factory.store }
  found : later.factory.store.find? settings.key = some validator.manager
  /-- Managers that were there before are as they were. -/
  managers : ∀ id manager, session.factory.store.manager? id = some manager →
    later.factory.store.manager? id = some manager
  store : later.factory.store = session.factory.store ∨
    session.factory.store.find? settings.key = none ∧
      later.factory.store.index =
        session.factory.store.index ++ [(settings.key, validator.manager)] ∧
      later.factory.store.managers =
        session.factory.store.managers ++ [⟨settings.key, session.factory.sources, .empty, 0⟩]

theorem handsOut (settings : Settings) :
    session.HandsOut settings (session.factory.validatorFrom settings).2.2
      (session.handOut settings) := by
  have manager : (session.factory.validatorFrom settings).2.2 =
      ⟨settings, (session.factory.store.get settings.key session.factory.sources).2.2⟩ := rfl
  have store : (session.handOut settings).factory.store =
      (session.factory.store.get settings.key session.factory.sources).2.1 := rfl
  rcases session.factory.store.get_cases settings.key session.factory.sources with
    ⟨id, found, got⟩ | ⟨missing, got⟩
  · refine ⟨rfl, rfl, rfl, rfl, ?_, ?_, .inl ?_⟩
    · rw [store, manager, got]
      exact found
    · rw [store, got]
      exact fun _ _ there => there
    · rw [store, got]
  · refine ⟨rfl, rfl, rfl, rfl, ?_, ?_, .inr ⟨missing, ?_, ?_⟩⟩
    · rw [store, manager, got, Metadata.Store.find?_file, missing, Option.none_or,
        if_pos (Metadata.Key.agrees_iff.mpr rfl)]
      rfl
    · intro id manager there
      rw [store, got, Metadata.Store.manager?_file,
        if_neg (Nat.ne_of_lt (session.factory.store.lt_of_manager? there)), there]
    · rw [store, manager, got]
      exact Metadata.Store.index_file _ _ _
    · rw [store, got]
      rfl

variable {session}

/-- What is found in the store is found there until the factory is closed. -/
theorem find?_step {key : Metadata.Key} {id : Metadata.ManagerId} {request : Request}
    (found : session.factory.store.find? key = some id) (unclosed : .close ≠ request) :
    (session.step request).factory.store.find? key = some id := by
  apply step_cases (motive := fun later => later.factory.store.find? key = some id)
  · intro settings _
    rcases (session.handsOut settings).store with same | ⟨_, index, _⟩
    · rw [same]
      exact found
    · unfold Metadata.Store.find? at found ⊢
      obtain ⟨entry, first, named⟩ := Option.map_eq_some_iff.mp found
      rw [index, List.find?_append, first]
      exact congrArg some named
  · intro _ _ _
    exact found
  · intro _
    exact found
  · intro closed
    exact absurd closed.symm unclosed

theorem find?_run {key : Metadata.Key} {id : Metadata.ManagerId} {requests : List Request}
    (found : session.factory.store.find? key = some id) (unclosed : .close ∉ requests) :
    (session.run requests).factory.store.find? key = some id := by
  apply run_induction (motive := fun later => later.factory.store.find? key = some id) found
  intro now request listed there
  exact find?_step there fun same => unclosed (same ▸ listed)

end Session

/-- A factory in use, with the contexts that were started. One that has led to its validator is
gone. -/
structure Desk where
  session : Session
  contexts : List (Option Context) := []

namespace Desk

/-- No context was started yet. -/
def empty (session : Session) : Desk := { session }

/-- What is done with a factory and with the contexts, which go by the number of their start. -/
inductive Act where
  | ask (request : Request)
  | start
  | change (number : Nat) (override : Override)
  /-- Ask for the validator of a context. -/
  | finish (number : Nat)

/-- Whether the factory is left alone: a context is started, or a change is asked for in it. -/
def Act.IsDraft : Act → Prop
  | start => True
  | change _ _ => True
  | _ => False

/-- Do one thing. -/
def step (desk : Desk) : Act → Desk
  | .ask request => { desk with session := desk.session.step request }
  | .start =>
      { desk with contexts := desk.contexts ++ [some desk.session.factory.settings.context] }
  | .change number override =>
      { desk with contexts := desk.contexts.modify number (Option.map (·.change override)) }
  | .finish number => {
      session := match desk.contexts[number]?.join with
        | some context => desk.session.handOut context.settled
        | none => desk.session
      contexts := desk.contexts.set number none }

/-- Do one thing after the other. -/
def run (desk : Desk) (acts : List Act) : Desk :=
  acts.foldl step desk

/-- What was asked for in each context so far. -/
abbrev Drafts := List (Option (List Override))

namespace Drafts

/-- Contexts note changes, each for itself. -/
def after (drafts : Drafts) : Act → Drafts
  | .ask _ => drafts
  | .start => drafts ++ [some []]
  | .change number override => drafts.modify number (Option.map (· ++ [override]))
  | .finish number => drafts.set number none

/-- The factory gets requests of its own, and those for the validators of contexts with all of
their changes. -/
def requests (drafts : Drafts) : Act → List Request
  | .ask request => [request]
  | .finish number => (drafts[number]?.join.map .context).toList
  | _ => []

/-- The requests that come of what is done. -/
def allRequests (drafts : Drafts) : List Act → List Request
  | [] => []
  | act :: rest => drafts.requests act ++ (drafts.after act).allRequests rest

/-- Nothing is requested before a validator is asked for. -/
theorem allRequests_eq_nil {drafts : Drafts} {acts : List Act} (draft : ∀ act ∈ acts, act.IsDraft) :
    drafts.allRequests acts = [] := by
  induction acts generalizing drafts with
  | nil => rfl
  | cons act rest ih =>
      obtain ⟨here, later⟩ := List.forall_mem_cons.mp draft
      have nothing : drafts.requests act = [] := by
        cases act with
        | start => rfl
        | change number override => rfl
        | ask request => exact here.elim
        | finish number => exact here.elim
      rw [allRequests, nothing, ih later, List.append_nil]

end Drafts

/-- Modifying a place can be seen through a map. -/
theorem map_modify {α β : Type} {f : α → β} {modification : α → α} {image : β → β}
    (seen : ∀ x, f (modification x) = image (f x)) (list : List α) (place : Nat) :
    (list.modify place modification).map f = (list.map f).modify place image := by
  apply List.ext_getElem?
  intro other
  rw [List.getElem?_map, List.getElem?_modify, List.getElem?_modify, List.getElem?_map]
  cases list[other]? with
  | none => simp
  | some x => by_cases same : place = other <;> simp [same, seen]

/-- The contexts are what their changes make of the settings of the factory. -/
def Follows (desk : Desk) (drafts : Drafts) : Prop :=
  desk.contexts = drafts.map (Option.map fun overrides =>
    overrides.foldl Context.change desk.session.factory.settings.context)

variable {desk : Desk} {drafts : Drafts}

/-- Whatever is done, contexts go on following their changes, and the factory sees the requests
only. -/
theorem Follows.step (follows : desk.Follows drafts) (act : Act) :
    (desk.step act).Follows (drafts.after act) ∧
      (desk.step act).session = desk.session.run (drafts.requests act) := by
  unfold Follows at follows ⊢
  cases act with
  | ask request =>
      refine ⟨?_, rfl⟩
      have settings : (desk.session.step request).factory.settings =
          desk.session.factory.settings := desk.session.settings_run [request]
      simp only [Desk.step, Drafts.after]
      rw [settings, follows]
  | start =>
      refine ⟨?_, rfl⟩
      simp [Desk.step, Drafts.after, follows]
  | change number override =>
      refine ⟨?_, rfl⟩
      simp only [Desk.step, Drafts.after]
      rw [follows, map_modify]
      intro draft
      cases draft <;> simp
  | finish number =>
      have here : desk.contexts[number]?.join = drafts[number]?.join.map fun overrides =>
          overrides.foldl Context.change desk.session.factory.settings.context := by
        rw [follows, List.getElem?_map]
        rcases drafts[number]? with _ | _ | overrides <;> rfl
      have session : (desk.step (.finish number)).session =
          desk.session.run (drafts.requests (.finish number)) := by
        simp only [Desk.step, Drafts.requests]
        rw [here]
        cases drafts[number]?.join with
        | none => rfl
        | some overrides => rfl
      have settings : (desk.step (.finish number)).session.factory.settings =
          desk.session.factory.settings := by
        rw [session, Session.settings_run]
      refine ⟨?_, session⟩
      rw [settings]
      simp only [Desk.step, Drafts.after]
      rw [follows, List.map_set]
      rfl

theorem Follows.run (follows : desk.Follows drafts) (acts : List Act) :
    (desk.run acts).session = desk.session.run (drafts.allRequests acts) := by
  induction acts generalizing desk drafts with
  | nil => rfl
  | cons act rest ih =>
      obtain ⟨next, session⟩ := follows.step act
      change ((desk.step act).run rest).session = _
      rw [ih next, session, Drafts.allRequests, Session.run_append]

theorem follows_empty (session : Session) : (empty session).Follows [] := rfl

end Desk

namespace Session

/-- Whatever a factory was used for before, a validator for which changes are asked has each part of
its settings from the last change of that part, or else from the factory, and the extractors of the
factory with all added ones over them. Changes about different things can be asked for in any order:
the factory ends up the same, and until it is closed every further validator of that kind is like
the first, its manager included. The validator is all that is new, apart from at most one manager in
the store. Contexts may be used side by side, among other requests: what they do to the factory is
what the requests for their validators do to it, which is nothing if no validator is asked for. -/
theorem contexts_leave_no_trace (session : Session) (overrides : List Override) :
    let validator := (session.factory.validatorWith overrides).2.2
    let later := session.step (.context overrides)
    (∀ part, validator.settings.get part =
        (Override.latest? overrides part).getD (session.factory.settings.get part)) ∧
      validator.settings.extractors =
        session.factory.settings.extractors.overlay (overrides.filterMap Override.extractor?) ∧
      (∀ other, Override.Reordered overrides other →
        session.step (.context other) = later ∧
          ∀ requests, .close ∉ requests →
            let factory := (later.run requests).factory
            (factory.validatorWith other).2 = (factory, validator)) ∧
      session.HandsOut (session.factory.settings.overridden overrides) validator later ∧
      (∀ acts, ((Desk.empty session).run acts).session =
        session.run (Desk.Drafts.allRequests [] acts)) ∧
      ∀ acts, (∀ act ∈ acts, act.IsDraft) → ((Desk.empty session).run acts).session = session := by
  intro validator later
  have handsOut : session.HandsOut _ validator later := session.handsOut _
  have desk (acts : List Desk.Act) := (Desk.follows_empty session).run acts
  refine ⟨?_, ?_, ?_, handsOut, desk, ?_⟩
  · intro part
    rw [handsOut.asked]
    exact session.factory.settings.get_overridden overrides part
  · rw [handsOut.asked]
    exact session.factory.settings.extractors_overridden overrides
  · intro other reordered
    have same : session.factory.settings.overridden overrides =
        session.factory.settings.overridden other :=
      session.factory.settings.overridden_of_reordered reordered
    refine ⟨congrArg session.handOut same.symm, ?_⟩
    intro requests unclosed factory
    have settings : factory.settings = session.factory.settings :=
      (later.settings_run requests).trans (session.settings_run [.context overrides])
    have found := find?_run handsOut.found unclosed
    rw [Factory.validatorWith, settings, ← same, Factory.validatorFrom_of_found found]
    rfl
  · intro acts draft
    rw [desk, Desk.Drafts.allRequests_eq_nil draft]
    rfl

/-- Relaxing a rule can come between two changes of another flag or after both of them. -/
theorem contexts_leave_no_trace_of_relaxed_rule :
    let between : List Override := [.failFast true, .rule .multipleCascade true, .failFast false]
    let after : List Override := [.failFast true, .failFast false, .rule .multipleCascade true]
    Override.Reordered between after ∧ ∃ factory : Factory,
      ((Factory.build Component.Registry.shared.loader .empty).run {}).result = .ok factory ∧
        (factory.validatorWith between).2.2.settings.flags =
          { failFast := false, rules := ⟨false, true, false⟩ } ∧
        (start factory).step (.context after) = (start factory).step (.context between) ∧
        let twice := (start factory).run [.context between, .validator]
        (twice.factory.validatorWith after).2.2 = (factory.validatorWith between).2.2 := by
  intro between after
  have reordered : Override.Reordered between after :=
    Override.reordered_swap (by decide) [.failFast true] []
  have seen : ((Factory.build Component.Registry.shared.loader .empty).run {}).result.map
      (fun factory => (factory.validatorWith between).2.2.settings.flags) =
        .ok { failFast := false, rules := ⟨false, true, false⟩ } := rfl
  obtain ⟨factory, built, flags⟩ := ok_of_map seen
  obtain ⟨_, _, orders, _⟩ := contexts_leave_no_trace (start factory) between
  obtain ⟨same, further⟩ := orders after reordered
  obtain ⟨_, second⟩ := Prod.ext_iff.mp (further [.validator] (by simp))
  exact ⟨reordered, factory, built, flags, same, second⟩

end Session

end BeanConstraints
