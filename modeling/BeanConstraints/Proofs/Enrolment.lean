/-
# Registries of components follow their histories

What a registry of components answers depends on the registrations made with it
and on nothing else. Contributors and script evaluators have names of their own. Of
several registrations under one name the last counts, but the name keeps the place
that the first one gave it, also while it goes in and out of discovery. A copy of a
registry has the history of the original up to the moment of copying, and from then
on each of the two has a history of its own.
-/

import BeanConstraints.Proofs.CallOrder
import BeanConstraints.Proofs.Table

namespace BeanConstraints.Component

/-- A registration of a component under a name. -/
inductive Enrolment where
  | contributor (name : String) (constructor : Constructor Contributor) (discoverable : Bool)
  | scripts (name : String) (constructor : Constructor ScriptEvaluators)

namespace Enrolment

/-- The contributor that is registered. -/
def contributor? : Enrolment → Option (String × Registered)
  | contributor name constructor discoverable => some (name, ⟨constructor, discoverable⟩)
  | scripts _ _ => none

/-- The script evaluators that are registered. -/
def scripts? : Enrolment → Option (String × Constructor ScriptEvaluators)
  | contributor _ _ _ => none
  | scripts name constructor => some (name, constructor)

/-- The names of the contributors, one for each registration. -/
def contributorNames (history : List Enrolment) : List String :=
  (history.filterMap contributor?).map Prod.fst

theorem contributorNames_concat_contributor (history : List Enrolment) (name : String)
    (constructor : Constructor Contributor) (discoverable : Bool) :
    contributorNames (history ++ [contributor name constructor discoverable]) =
      contributorNames history ++ [name] := by
  simp [contributorNames, contributor?]

theorem contributorNames_concat_scripts (history : List Enrolment) (name : String)
    (constructor : Constructor ScriptEvaluators) :
    contributorNames (history ++ [scripts name constructor]) = contributorNames history := by
  simp [contributorNames, contributor?]

/-- The names of the script evaluators, one for each registration. -/
def scriptNames (history : List Enrolment) : List String :=
  (history.filterMap scripts?).map Prod.fst

end Enrolment

/-- What a history of registrations leaves on offer: each contributor that was registered for
discovery when its name was last registered, in the order in which the names came first. -/
def offered (history : List Enrolment) : List (String × Constructor Contributor) :=
  (Enrolment.contributorNames history).eraseDups.filterMap fun name =>
    match Table.latest? (history.filterMap Enrolment.contributor?) name with
    | some ⟨constructor, true⟩ => some (name, constructor)
    | _ => none

namespace Registry

/-- Make one registration. -/
def enrol (registry : Registry) : Enrolment → Registry
  | .contributor name constructor discoverable =>
      registry.registerContributor name constructor discoverable
  | .scripts name constructor => registry.registerScripts name constructor

/-- A new registry after registrations. -/
def following (label : String) (history : List Enrolment) : Registry :=
  history.foldl enrol (named label)

theorem following_concat (label : String) (history : List Enrolment) (enrolment : Enrolment) :
    following label (history ++ [enrolment]) = (following label history).enrol enrolment := by
  simp [following]

/-- A registration replaces what is registered under its name and nothing else. -/
theorem contributor?_registerContributor (registry : Registry) (name other : String)
    (constructor : Constructor Contributor) (discoverable : Bool) :
    (registry.registerContributor name constructor discoverable).contributor? other =
      if name = other then some ⟨constructor, discoverable⟩ else registry.contributor? other := by
  by_cases same : name = other
  · rw [if_pos same, ← same]
    exact Table.get?_insert_self registry.entries name _
  · rw [if_neg same]
    exact Table.get?_insert_of_ne registry.entries _ fun equal => same equal.symm

section

variable (label : String) (history : List Enrolment)

theorem contributor?_following (name : String) :
    (following label history).contributor? name =
      Table.latest? (history.filterMap Enrolment.contributor?) name := by
  induction history using List.reverseRecOn with
  | nil => rfl
  | append_singleton earlier enrolment ih =>
      rw [following_concat, List.filterMap_append]
      cases enrolment with
      | contributor key constructor discoverable =>
          simp only [enrol, contributor?_registerContributor, ih, List.filterMap_cons,
            Enrolment.contributor?, List.filterMap_nil, Table.latest?_concat]
      | scripts key constructor =>
          rw [List.filterMap_cons_none rfl, List.filterMap_nil, List.append_nil]
          exact ih

theorem get?_scripts_following (name : String) :
    (following label history).scripts.get? name =
      Table.latest? (history.filterMap Enrolment.scripts?) name := by
  induction history using List.reverseRecOn with
  | nil => rfl
  | append_singleton earlier enrolment ih =>
      rw [following_concat, List.filterMap_append]
      cases enrolment with
      | contributor key constructor discoverable =>
          rw [List.filterMap_cons_none rfl, List.filterMap_nil, List.append_nil]
          exact ih
      | scripts key constructor =>
          simp only [enrol, registerScripts, List.filterMap_cons, Enrolment.scripts?,
            List.filterMap_nil, Table.latest?_concat]
          by_cases same : key = name
          · rw [if_pos same, same, Table.get?_insert_self]
          · rw [if_neg same, Table.get?_insert_of_ne _ _ fun equal => same equal.symm, ih]

/-- Contributors stand in the order in which the name of each came first. -/
theorem order_following :
    (following label history).order = (Enrolment.contributorNames history).eraseDups := by
  induction history using List.reverseRecOn with
  | nil => rfl
  | append_singleton earlier enrolment ih =>
      rw [following_concat]
      cases enrolment with
      | contributor key constructor discoverable =>
          rw [enrol, order_registerContributor, ih, Enrolment.contributorNames_concat_contributor,
            List.eraseDups_append]
          by_cases known : key ∈ Enrolment.contributorNames earlier
          · simp [known, List.removeAll]
          · simp [known, List.removeAll, List.eraseDups_cons]
      | scripts key constructor =>
          rw [Enrolment.contributorNames_concat_scripts]
          exact ih

/-- What a registry offers is what its history leaves on offer. -/
theorem offers_following :
    ((following label history).contributors.filter fun entry => entry.2.discoverable).map
      (fun entry => (entry.1, entry.2.constructor)) = offered history := by
  rw [contributors, order_following, List.filter_filterMap, List.map_filterMap]
  apply List.filterMap_congr
  intro name _
  rw [contributor?_following]
  rcases Table.latest? (history.filterMap Enrolment.contributor?) name with
    _ | ⟨constructor, _ | _⟩ <;> rfl

end

end Registry

/-- How loading ends for what is registered under a name. A constructor is the only one that is
run, and a failure is always one of loading: that of the constructor if it is one of loading
already, and else one that has the failure for its reason. -/
inductive Loads {α : Type} (kind : Kind) (name : String) : Option (Constructor α) → Reply α → Prop
  | unknown : Loads kind name none
      ⟨[], .error (.componentLoad kind name "no component registered under this name")⟩
  | made {constructor : Constructor α} {value : α} (well : constructor.result = .ok value) :
      Loads kind name (some constructor) ⟨[.construct constructor.tag], .ok value⟩
  | refused {constructor : Constructor α} {inner : Kind} {innerName reason : String}
      (failed : constructor.result = .error (.componentLoad inner innerName reason)) :
      Loads kind name (some constructor)
        ⟨[.construct constructor.tag], .error (.componentLoad inner innerName reason)⟩
  | failed {constructor : Constructor α} {cause : Fault}
      (failed : constructor.result = .error cause)
      (other : ∀ inner innerName reason, cause ≠ .componentLoad inner innerName reason) :
      Loads kind name (some constructor)
        ⟨[.construct constructor.tag], .error (.componentLoad kind name cause.message)⟩

theorem loads_runAs {α : Type} (constructor : Constructor α) (kind : Kind) (name : String) :
    Loads kind name (some constructor) (constructor.runAs kind name) := by
  unfold Constructor.runAs
  cases ended : constructor.result with
  | ok value => exact .made ended
  | error cause =>
      cases cause with
      | componentLoad inner innerName reason => exact .refused ended
      | _ => exact .failed ended nofun

/-- A failure to load is one of loading. -/
theorem Loads.fault {α : Type} {kind : Kind} {name : String} {registered : Option (Constructor α)}
    {reply : Reply α} (loads : Loads kind name registered reply) {fault : Fault}
    (ended : reply.result = .error fault) :
    ∃ kind name reason, fault = .componentLoad kind name reason := by
  cases loads with
  | made => cases ended
  | _ =>
      cases ended
      exact ⟨_, _, _, rfl⟩

/-- How discovery ends for constructors that are on offer under their names: everything is made, or
everything up to the first constructor that fails, and no other constructor is run. -/
inductive Discovers (offers : List (String × Constructor Contributor)) :
    Reply (List (String × Contributor)) → Prop
  | all {made : List (String × Contributor)}
      (well : offers.map (fun offer => (offer.1, offer.2.result)) =
        made.map fun entry => (entry.1, .ok entry.2)) :
      Discovers offers ⟨offers.map fun offer => .construct offer.2.tag, .ok made⟩
  | upTo {before after : List (String × Constructor Contributor)}
      {offer : String × Constructor Contributor} {fault : Fault}
      (split : offers = before ++ offer :: after)
      (well : ∀ earlier ∈ before, ∃ value, earlier.2.result = .ok value)
      (failed : Loads .mappingContributor offer.1 (some offer.2)
        ⟨[.construct offer.2.tag], .error fault⟩) :
      Discovers offers ⟨(before ++ [offer]).map fun offer => .construct offer.2.tag, .error fault⟩

namespace Discovers

variable {offers : List (String × Constructor Contributor)}
  {reply : Reply (List (String × Contributor))}

/-- Discovery goes on after a constructor that does not fail. -/
theorem cons (discovers : Discovers offers reply) {offer : String × Constructor Contributor}
    {value : Contributor} (well : offer.2.result = .ok value) :
    Discovers (offer :: offers) ⟨.construct offer.2.tag :: reply.calls,
      reply.result.map ((offer.1, value) :: ·)⟩ := by
  cases discovers with
  | all later => exact .all (by simp [well, later])
  | @upTo before after last fault split later failed =>
      have longer : offer :: offers = (offer :: before) ++ last :: after :=
        congrArg (offer :: ·) split
      refine .upTo longer ?_ failed
      rintro earlier (_ | ⟨_, there⟩)
      · exact ⟨value, well⟩
      · exact later earlier there

/-- A failure to discover is one of loading. -/
theorem fault (discovers : Discovers offers reply) {fault : Fault}
    (ended : reply.result = .error fault) :
    ∃ kind name reason, fault = .componentLoad kind name reason := by
  cases discovers with
  | all => cases ended
  | upTo split well failed =>
      cases ended
      exact failed.fault rfl

end Discovers

namespace Registry

theorem discovers_discoverFrom (entries : List (String × Registered)) :
    Discovers ((entries.filter fun entry => entry.2.discoverable).map fun entry =>
      (entry.1, entry.2.constructor)) (discoverFrom entries) := by
  induction entries with
  | nil => exact .all rfl
  | cons entry rest ih =>
      obtain ⟨name, entry⟩ := entry
      rw [discoverFrom, List.filter_cons]
      split
      · have loads := loads_runAs entry.constructor .mappingContributor name
        rw [List.map_cons]
        cases ended : entry.constructor.result with
        | error cause =>
            simp only [Constructor.runAs, ended, Except.mapError] at loads ⊢
            exact @Discovers.upTo _ [] _ _ _ rfl (List.forall_mem_nil _) loads
        | ok value =>
            simp only [Constructor.runAs, ended, Except.mapError]
            exact ih.cons ended
      · exact ih

/-- A contributor is loaded by the constructor that stands under its name. -/
theorem loads_loadContributor (registry : Registry) (name : String) : Loads .mappingContributor name
    ((registry.contributor? name).map Registered.constructor) (registry.loadContributor name) := by
  rw [loadContributor]
  cases registry.contributor? name with
  | none => exact .unknown
  | some entry => exact loads_runAs entry.constructor _ name

/-- What registrations ask of a registry. -/
structure Follows (history : List Enrolment) (registry : Registry) : Prop where
  /-- The names of contributors stand in the order in which they came first. -/
  order : registry.order = (Enrolment.contributorNames history).eraseDups
  unrepeated : registry.order.Nodup
  /-- Exactly the names of contributors in the table stand in the order. -/
  keys : ∀ name, name ∈ registry.order ↔ name ∈ registry.entries.keys
  /-- A contributor is made by the constructor that was registered last for its name. -/
  contributor : ∀ name, Loads .mappingContributor name
    ((Table.latest? (history.filterMap Enrolment.contributor?) name).map Registered.constructor)
    (registry.loadContributor name)
  /-- Script evaluators are made by the constructor that was registered last for their name. -/
  scripts : ∀ name, Loads .scriptEvaluators name
    (Table.latest? (history.filterMap Enrolment.scripts?) name) (registry.loadScripts name)
  discovery : Discovers (offered history) registry.discover
  /-- A name that is used for both kinds of components counts twice. -/
  size : registry.size = (Enrolment.contributorNames history).toFinset.card +
    (Enrolment.scriptNames history).toFinset.card
  /-- Whatever fails, fails to load. -/
  faults : ∀ fault, (registry.discover.result = .error fault ∨
      ∃ name, (registry.loadContributor name).result = .error fault ∨
        (registry.loadScripts name).result = .error fault) →
    ∃ kind name reason, fault = .componentLoad kind name reason

section

variable (label : String) (history : List Enrolment)

theorem loads_contributor_following (name : String) : Loads .mappingContributor name
    ((Table.latest? (history.filterMap Enrolment.contributor?) name).map Registered.constructor)
    ((following label history).loadContributor name) := by
  rw [← contributor?_following label]
  exact loads_loadContributor _ name

theorem loads_scripts_following (name : String) : Loads .scriptEvaluators name
    (Table.latest? (history.filterMap Enrolment.scripts?) name)
    ((following label history).loadScripts name) := by
  rw [← get?_scripts_following label, loadScripts]
  cases (following label history).scripts.get? name with
  | none => exact .unknown
  | some constructor => exact loads_runAs constructor _ name

theorem discovers_following :
    Discovers (offered history) (following label history).discover := by
  rw [← offers_following label]
  exact discovers_discoverFrom _

theorem size_following : (following label history).size =
    (Enrolment.contributorNames history).toFinset.card +
      (Enrolment.scriptNames history).toFinset.card := by
  have contributors (name : String) : (following label history).entries.contains name = true ↔
      name ∈ Enrolment.contributorNames history := by
    rw [← listed, order_following, List.mem_eraseDups]
  have scripts (name : String) : (following label history).scripts.contains name = true ↔
      name ∈ Enrolment.scriptNames history := by
    rw [Table.contains, get?_scripts_following, Table.isSome_latest?]
    rfl
  rw [size, Table.size_eq_card contributors, Table.size_eq_card scripts]

theorem follows_following : (following label history).Follows history where
  order := order_following label history
  unrepeated := unrepeated _
  keys name := (listed _ name).trans Table.mem_keys.symm
  contributor := loads_contributor_following label history
  scripts := loads_scripts_following label history
  discovery := discovers_following label history
  size := size_following label history
  faults := by
    rintro fault (failed | ⟨name, failed | failed⟩)
    · exact (discovers_following label history).fault failed
    · exact (loads_contributor_following label history name).fault failed
    · exact (loads_scripts_following label history name).fault failed

end

end Registry

/-- A use of registries that stand in a row. -/
inductive Deed where
  /-- Register with the registry at a place. -/
  | enrol (place : Nat) (enrolment : Enrolment)
  /-- Put a copy of the registry at a place behind the last one. -/
  | copy (place : Nat)

namespace Deed

/-- What one use does to what stands in the row. -/
def act {α : Type} (enrol : α → Enrolment → α) (row : List α) : Deed → List α
  | .enrol place enrolment => row.modify place (enrol · enrolment)
  | .copy place => row ++ row[place]?.toList

/-- The registration that a use makes with the registry at a place. -/
def enrolmentAt? (place : Nat) : Deed → Option Enrolment
  | .enrol other enrolment => if other = place then some enrolment else none
  | .copy _ => none

/-- The registries after uses of a single new one. -/
def registries (label : String) (deeds : List Deed) : List Registry :=
  deeds.foldl (act Registry.enrol) [Registry.named label]

/-- The histories of the registries after uses of a single new one. -/
def histories (deeds : List Deed) : List (List Enrolment) :=
  deeds.foldl (act fun history enrolment => history ++ [enrolment]) [[]]

theorem act_map {α β : Type} {enrol : α → Enrolment → α} {other : β → Enrolment → β} {f : α → β}
    (along : ∀ item enrolment, f (enrol item enrolment) = other (f item) enrolment)
    (row : List α) (deed : Deed) : act other (row.map f) deed = (act enrol row deed).map f := by
  cases deed with
  | enrol place enrolment =>
      refine List.ext_getElem? fun index => ?_
      simp only [act, List.getElem?_modify, List.getElem?_map]
      cases row[index]? <;> split <;> simp [along]
  | copy place => cases found : row[place]? <;> simp [act, found]

/-- Each registry in the row has its history, and is what its history makes of a new one. -/
theorem registries_eq_map (label : String) (deeds : List Deed) :
    registries label deeds = (histories deeds).map (Registry.following label) := by
  induction deeds using List.reverseRecOn with
  | nil => rfl
  | append_singleton earlier deed ih =>
      simp only [registries, histories, List.foldl_append, List.foldl_cons, List.foldl_nil] at ih ⊢
      rw [ih]
      exact act_map (Registry.following_concat label) _ deed

/-- A history only grows by what is registered at its place. -/
theorem getElem?_act {row : List (List Enrolment)} {place : Nat} {history : List Enrolment}
    (there : row[place]? = some history) (deed : Deed) :
    (act (fun history enrolment => history ++ [enrolment]) row deed)[place]? =
      some (history ++ (enrolmentAt? place deed).toList) := by
  cases deed with
  | enrol other enrolment =>
      simp only [act, List.getElem?_modify, there, enrolmentAt?]
      split <;> simp
  | copy other =>
      have inside : place < row.length := (List.getElem?_eq_some_iff.mp there).1
      simp [act, enrolmentAt?, List.getElem?_append_left inside, there]

theorem getElem?_foldl_act {row : List (List Enrolment)} {place : Nat} {history : List Enrolment}
    (there : row[place]? = some history) (later : List Deed) :
    (later.foldl (act fun history enrolment => history ++ [enrolment]) row)[place]? =
      some (history ++ later.filterMap (enrolmentAt? place)) := by
  induction later generalizing row history with
  | nil => simpa using there
  | cons deed rest ih =>
      rw [List.foldl_cons, ih (getElem?_act there deed), List.filterMap_cons]
      cases enrolmentAt? place deed <;> simp

/-- A copy has the history of what it copies, followed by what is registered with the copy. -/
theorem getElem?_histories_copy {before : List Deed} {place : Nat} {history : List Enrolment}
    (there : (histories before)[place]? = some history) (later : List Deed) :
    (histories (before ++ .copy place :: later))[(histories before).length]? =
      some (history ++ later.filterMap (enrolmentAt? (histories before).length)) := by
  rw [histories, List.foldl_append, List.foldl_cons, ← histories]
  apply getElem?_foldl_act
  simp [act, there]

/-- A registry answers by its history, whatever the history is, and of several registries each has
its own: a copy starts with the history of what was copied, and nothing that is registered with
another registry later changes it. -/
theorem registries_follow_histories (label : String) :
    (∀ history, (Registry.following label history).Follows history) ∧
      ∀ deeds, registries label deeds = (histories deeds).map (Registry.following label) ∧
        ∀ before place later history, deeds = before ++ .copy place :: later →
          (histories before)[place]? = some history →
            (registries label deeds)[(histories before).length]? = some (Registry.following label
              (history ++ later.filterMap (enrolmentAt? (histories before).length))) := by
  refine ⟨Registry.follows_following label, fun deeds => ⟨registries_eq_map label deeds, ?_⟩⟩
  rintro before place later history rfl there
  rw [registries_eq_map, List.getElem?_map, getElem?_histories_copy there, Option.map_some]

/-- After the copy is taken, a name goes to another constructor and out of discovery: the original
discovers one contributor less and makes the other one on demand, the copy still discovers both. -/
theorem registries_follow_histories_of_replaced_orders :
    let before : List Deed := [.enrol 0 (.contributor "orders" ⟨"Orders", .ok ⟨"Orders", []⟩⟩ true),
      .enrol 0 (.contributor "prices" ⟨"Prices", .ok ⟨"Prices", []⟩⟩ true)]
    let later : List Deed :=
      [.enrol 0 (.contributor "orders" ⟨"Others", .error .inconsistentFailFast⟩ false)]
    let deeds := before ++ .copy 0 :: later
    (histories before)[0]? = some (before.filterMap (enrolmentAt? 0)) ∧
      (registries "shop" deeds).map (fun registry => registry.discover.calls) =
        [[.construct "Prices"], [.construct "Orders", .construct "Prices"]] ∧
      (registries "shop" deeds).map (fun registry => (registry.loadContributor "orders").calls) =
        [[.construct "Others"], [.construct "Orders"]] ∧
      (registries "shop" deeds)[1]? =
        some (Registry.following "shop" (before.filterMap (enrolmentAt? 0))) := by
  intro before later deeds
  obtain ⟨rows, copies⟩ := (registries_follow_histories "shop").2 deeds
  rw [rows]
  refine ⟨rfl, rfl, rfl, ?_⟩
  rw [← rows]
  exact copies before 0 later _ rfl rfl

end Deed

end BeanConstraints.Component
