/-
# Mappings are told apart

What tells mappings apart for those who deal with them is the identity that each carries. As
long as the counter of identities has not run out, this comes to the same as what the catalogue
says: two places with one identity are one place, so a set has nothing yet of the identity of a
mapping that a caller still holds, and takes it.
-/

import BeanConstraints.Proofs.Blocks
import BeanConstraints.Proofs.Catalogue

namespace BeanConstraints.Workshop

variable {ι σ : Type}

/-- The catalogue tells of a workshop: each mapping that was made got the next identity, and the
mappings are where the catalogue has their numbers. -/
structure Follows (shop : Workshop ι σ) (catalogue : Catalogue ι σ) : Prop where
  counter : shop.counters.mapping = .ofNat (catalogue.count + 1)
  given : shop.given = Bootstrap.idsFrom 1 catalogue.count
  layout : shop.layout = catalogue.layout.map catalogue.mapping

theorem follows_start : Follows ({} : Workshop ι σ) {} where
  counter := rfl
  given := rfl
  layout := rfl

variable {shop next : Workshop ι σ} {catalogue : Catalogue ι σ}

theorem Follows.length_given (follows : shop.Follows catalogue) :
    shop.given.length = catalogue.count := by
  rw [follows.given, Bootstrap.idsFrom, List.length_map, List.length_range]

/-- The identities that come next follow those that were given out. -/
theorem Follows.given_append (follows : shop.Follows catalogue) (more : Nat) :
    shop.given ++ Bootstrap.idsFrom shop.counters.mapping more =
      Bootstrap.idsFrom 1 (catalogue.count + more) := by
  have next : shop.counters.mapping = 1 + .ofNat catalogue.count := by
    rw [follows.counter, Nat.add_comm, UInt64.ofNat_add]
    rfl
  rw [follows.given, next, Bootstrap.idsFrom_add]

/-- Whoever draws an identity enters a mapping in the catalogue. -/
theorem Follows.draw (follows : shop.Follows catalogue) {content : Mapping}
    {layout : Layout ι σ Nat} (counters : next.counters = shop.draw.2.counters)
    (given : next.given = shop.draw.2.given)
    (there : next.layout = layout.map (catalogue.enter content layout).mapping) :
    next.Follows (catalogue.enter content layout) where
  counter := by
    change next.counters.mapping = .ofNat (catalogue.count + 1 + 1)
    rw [counters, UInt64.ofNat_add, ← follows.counter]
    rfl
  given := by
    have drawn : shop.draw.2.given =
        shop.given ++ Bootstrap.idsFrom shop.counters.mapping 1 := by
      simp [Workshop.draw, Counters.drawMapping, Bootstrap.idsFrom]
    rw [given, drawn, follows.given_append]
    rfl
  layout := there

/-- What is at a place is the mapping whose number the catalogue has there. -/
theorem Follows.at? (follows : shop.Follows catalogue) (place : Place ι σ) :
    shop.layout.at? place = (catalogue.layout.at? place).map catalogue.mapping := by
  rw [follows.layout, Layout.at?_map]

/-- As long as the counter has not run out, the identity at a place tells which place it is. -/
theorem Follows.eq_of_id (follows : shop.Follows catalogue) (sound : catalogue.Sound)
    (few : catalogue.count < UInt64.size) {first second : Place ι σ} {one other : Mapping}
    (here : shop.layout.at? first = some one) (there : shop.layout.at? second = some other)
    (same : one.id = other.id) : first = second := by
  rw [follows.at?] at here there
  obtain ⟨number, numbered, rfl⟩ := Option.map_eq_some_iff.mp here
  obtain ⟨another, renumbered, rfl⟩ := Option.map_eq_some_iff.mp there
  obtain rfl : number = another := Catalogue.eq_of_id few (sound.known first number numbered)
    (sound.known second another renumbered) same
  exact sound.apart first second number numbered renumbered

/-- The identities that were given out, by the numbers of the mappings that have them. -/
theorem Follows.getElem?_given (follows : shop.Follows catalogue) {number : Nat}
    (known : number < catalogue.count) :
    shop.given[number]? = some (catalogue.mapping number).id := by
  rw [follows.given, catalogue.id_mapping, Bootstrap.idsFrom, List.getElem?_map,
    List.getElem?_range known]
  rfl

/-- A mapping has one of the identities that were given out. -/
theorem Follows.mem_given (follows : shop.Follows catalogue) (sound : catalogue.Sound)
    {place : Place ι σ} {mapping : Mapping} (there : shop.layout.at? place = some mapping) :
    mapping.id ∈ shop.given := by
  rw [follows.at?] at there
  obtain ⟨number, numbered, rfl⟩ := Option.map_eq_some_iff.mp there
  rw [follows.given, catalogue.id_mapping]
  exact List.mem_map_of_mem (List.mem_range.mpr (sound.known place number numbered))

/-- A set has nothing of the identity of a mapping that a caller holds, so it takes the mapping. -/
theorem Follows.insert (follows : shop.Follows catalogue) (sound : catalogue.Sound)
    (few : catalogue.count < UInt64.size) {slot : ι} {mapping : Mapping}
    (held : shop.held slot = some mapping) (set : σ) :
    (shop.sets set).insert mapping = ((shop.sets set).append mapping, true) := by
  have lacking : ¬(shop.sets set).mappings.any (fun present => present.id == mapping.id) := by
    rw [List.any_eq_true]
    rintro ⟨present, listed, same⟩
    obtain ⟨index, there⟩ := List.mem_iff_getElem?.mp listed
    have one : shop.layout.at? (.listed set index) = some present := there
    have other : shop.layout.at? (.held slot) = some mapping := held
    cases follows.eq_of_id sound few one other (eq_of_beq same)
  rw [MappingSet.insert, if_neg lacking, MappingSet.append]

/-- Identities that are drawn differ from all those that were given out. -/
theorem Follows.nodup_append (follows : shop.Follows catalogue) {handed : List MappingId}
    (distinct : handed.Nodup) (known : handed ⊆ shop.given) {more : Nat}
    (room : shop.given.length + more < UInt64.size) :
    (handed ++ Bootstrap.idsFrom shop.counters.mapping more).Nodup := by
  have within : (1 : MappingId).toNat + (catalogue.count + more) ≤ UInt64.size := by
    rw [follows.length_given] at room
    change 1 + (catalogue.count + more) ≤ UInt64.size
    omega
  have rising := Bootstrap.pairwise_idsFrom 1 within
  rw [← follows.given_append, List.pairwise_append] at rising
  obtain ⟨-, later, before⟩ := rising
  have differ {one other : MappingId} (less : one < other) : one ≠ other :=
    fun equal => UInt64.lt_irrefl other (equal ▸ less)
  exact List.nodup_append.mpr ⟨distinct, later.imp differ,
    fun one listed other drawn => differ (before one (known listed) other drawn)⟩

/-- What callers hold at different slots has different identities. -/
theorem Follows.nodup_held (follows : shop.Follows catalogue) (sound : catalogue.Sound)
    (few : catalogue.count < UInt64.size) {slots : List ι} (apart : slots.Nodup) :
    ((slots.filterMap shop.held).map Mapping.id).Nodup := by
  rw [List.map_filterMap]
  refine apart.filterMap fun one other id here there => ?_
  obtain ⟨first, held, rfl⟩ := Option.map_eq_some_iff.mp here
  obtain ⟨second, holds, same⟩ := Option.map_eq_some_iff.mp there
  have there : shop.layout.at? (.held one) = some first := held
  have elsewhere : shop.layout.at? (.held other) = some second := holds
  exact Place.held.inj (follows.eq_of_id sound few there elsewhere same.symm)

/-- A set has each identity once. -/
theorem Follows.nodup_set (follows : shop.Follows catalogue) (sound : catalogue.Sound)
    (few : catalogue.count < UInt64.size) (set : σ) :
    ((shop.sets set).mappings.map Mapping.id).Nodup := by
  rw [List.Nodup, List.pairwise_map, List.pairwise_iff_getElem]
  intro index later within within' before same
  have here : shop.layout.at? (.listed set index) = some (shop.sets set).mappings[index] :=
    List.getElem?_eq_getElem within
  have there : shop.layout.at? (.listed set later) = some (shop.sets set).mappings[later] :=
    List.getElem?_eq_getElem within'
  cases follows.eq_of_id sound few here there same
  exact Nat.lt_irrefl index before

/-- Collecting lists everything handed over, whatever contributors add. -/
theorem Follows.collect (follows : shop.Follows catalogue) (sound : catalogue.Sound)
    (few : catalogue.count < UInt64.size) {slots : List ι} (apart : slots.Nodup)
    {loader : Component.Loader} {contributors : Option String} {set : MappingSet}
    (collected : ((Bootstrap.collect loader (slots.filterMap shop.held) contributors).run
      shop.counters).result = .ok set) :
    ∃ added, set.mappings = slots.filterMap shop.held ++ added ∧
      (shop.given.length + added.length < UInt64.size → (set.mappings.map Mapping.id).Nodup) := by
  obtain ⟨discovered, named, found, loads⟩ := Bootstrap.loads_of_collect collected
  have distinct := follows.nodup_held sound few apart
  have adds := (Bootstrap.adds_collect distinct found loads shop.counters).result
  rw [collected] at adds
  obtain rfl := Except.ok.inj adds
  refine ⟨_, rfl, fun room => ?_⟩
  rw [List.map_append, Bootstrap.ids_blocks]
  refine follows.nodup_append distinct (fun id handed => ?_) room
  obtain ⟨mapping, listed, rfl⟩ := List.mem_map.mp handed
  obtain ⟨slot, -, held⟩ := List.mem_filterMap.mp listed
  have there : shop.layout.at? (.held slot) = some mapping := held
  exact follows.mem_given sound there

/-- Whoever draws an identity for a mapping to hold enters the mapping in the catalogue. -/
theorem Follows.hold [DecidableEq ι] (follows : shop.Follows catalogue) (sound : catalogue.Sound)
    (content : Mapping) (slot : ι) :
    (shop.draw.2.withHeld slot (some (content.copy shop.draw.1))).Follows
      (catalogue.enter content (catalogue.layout.put slot catalogue.count)) := by
  refine follows.draw rfl rfl ?_
  rw [sound.map_put, ← follows.layout, ← follows.counter]
  exact layout_withHeld_some _ slot _

/-- So does a builder that draws an identity for a mapping to add to a set. -/
theorem Follows.add [DecidableEq σ] (follows : shop.Follows catalogue) (sound : catalogue.Sound)
    (content : Mapping) (set : σ) :
    (shop.draw.2.withSet set ((shop.sets set).append (content.copy shop.draw.1))).Follows
      (catalogue.enter content (catalogue.layout.append set catalogue.count)) := by
  refine follows.draw rfl rfl ?_
  rw [sound.map_append, ← follows.layout, ← follows.counter]
  exact layout_withSet _ set _

variable [DecidableEq ι] [DecidableEq σ]

/-- Editing a mapping at its place is amending what the catalogue has under its number. -/
theorem Follows.edit (follows : shop.Follows catalogue) (sound : catalogue.Sound)
    (place : Place ι σ) (change : Mapping.Change) :
    (shop.step (.edit place change)).Follows (catalogue.step (.edit place change)) := by
  have counters : (shop.step (.edit place change)).counters = shop.counters := by
    cases place <;> rfl
  have given : (shop.step (.edit place change)).given = shop.given := by
    cases place <;> rfl
  obtain ⟨unmoved, count⟩ := catalogue.layout_edit place change
  refine ⟨by rw [counters, count, follows.counter], by rw [given, count, follows.given], ?_⟩
  rw [Workshop.layout_edit, unmoved, follows.layout]
  rcases place.sealed_or_free with ⟨number, index, rfl⟩ | free
  · rfl
  · rw [Catalogue.step_edit free]
    cases there : catalogue.layout.at? place with
    | none =>
        have missing : (catalogue.layout.map catalogue.mapping).at? place = none := by
          rw [Layout.at?_map, there, Option.map_none]
        exact Layout.edit_of_none missing _
    | some number =>
        rw [Catalogue.mapping_amend]
        exact (Layout.map_edit sound.apart there free change.apply).symm

/-- A mapping that is inserted leaves its caller and stands last in the set. -/
theorem Follows.move (follows : shop.Follows catalogue) (sound : catalogue.Sound)
    (few : catalogue.count < UInt64.size) {slot : ι} {number : Nat}
    (numbered : catalogue.layout.held slot = some number) (set : σ) :
    ((shop.withHeld slot none).withSet set
        ((shop.sets set).insert (catalogue.mapping number)).1).Follows
      { catalogue with layout := (catalogue.layout.take slot).append set number } := by
  have held : shop.held slot = some (catalogue.mapping number) := by
    have there := follows.at? (.held slot)
    rwa [show catalogue.layout.at? (.held slot) = some number from numbered] at there
  have moved : ((shop.withHeld slot none).withSet set
        ((shop.sets set).append (catalogue.mapping number))).layout =
      ((catalogue.layout.take slot).append set number).map catalogue.mapping := by
    rw [Layout.map_append, Layout.map_take, ← follows.layout, ← layout_withHeld_none]
    exact layout_withSet _ set _
  rw [follows.insert sound few held set]
  exact ⟨follows.counter, follows.given, moved⟩

/-- What is done comes to the same in the workshop and in the catalogue. -/
theorem Follows.step (follows : shop.Follows catalogue) (sound : catalogue.Sound)
    (few : catalogue.count < UInt64.size) (dealing : Dealing ι σ) :
    (shop.step dealing).Follows (catalogue.step dealing) := by
  cases dealing with
  | make slot => exact follows.hold sound ⟨0, .preSupplied, [], []⟩ slot
  | copy source slot =>
      rw [Workshop.step, Catalogue.step, follows.at? source]
      cases catalogue.layout.at? source with
      | none => exact follows
      | some number => exact follows.hold sound (catalogue.content number) slot
  | edit place change => exact follows.edit sound place change
  | drop slot =>
      have moved : (shop.withHeld slot none).layout =
          (catalogue.layout.take slot).map catalogue.mapping := by
        rw [layout_withHeld_none, follows.layout, Layout.map_take]
      exact ⟨follows.counter, follows.given, moved⟩
  | insert slot set =>
      have there := follows.at? (.held slot)
      change shop.held slot = (catalogue.layout.held slot).map catalogue.mapping at there
      rw [Workshop.step, Catalogue.step, there]
      cases numbered : catalogue.layout.held slot with
      | none => exact follows
      | some number => exact follows.move sound few numbered set
  | add set origin => exact follows.add sound ⟨0, origin, [], []⟩ set
  | freeze set =>
      refine ⟨follows.counter, follows.given, ?_⟩
      rw [layout_freeze, follows.layout, ← Layout.map_freeze]
      rfl

/-- If few identities were given out in the end, few were given out before. -/
theorem Follows.count_lt (follows : shop.Follows catalogue) {dealings : List (Dealing ι σ)}
    (few : (dealings.foldl Workshop.step shop).given.length < UInt64.size) :
    catalogue.count < UInt64.size := by
  rw [← follows.length_given]
  exact (shop.kept_foldl dealings).1.length_le.trans_lt few

/-- The catalogue tells of the workshop however long one goes on, until the counter runs out. -/
theorem Follows.foldl (follows : shop.Follows catalogue) (sound : catalogue.Sound)
    {dealings : List (Dealing ι σ)}
    (few : (dealings.foldl Workshop.step shop).given.length < UInt64.size) :
    (dealings.foldl Workshop.step shop).Follows (dealings.foldl Catalogue.step catalogue) ∧
      (dealings.foldl Catalogue.step catalogue).Sound := by
  induction dealings generalizing shop catalogue with
  | nil => exact ⟨follows, sound⟩
  | cons dealing rest ih =>
      exact ih (follows.step sound (follows.count_lt few) dealing) (sound.step dealing) few

/-- A mapping that comes to a set stands behind those that came before it. -/
theorem Follows.ids_step (follows : shop.Follows catalogue) (sound : catalogue.Sound)
    (few : catalogue.count < UInt64.size) (dealing : Dealing ι σ) (set : σ) :
    ((shop.step dealing).sets set).mappings.map Mapping.id =
      listing set shop ((shop.sets set).mappings.map Mapping.id) dealing := by
  have updated (other : σ) (next : MappingSet) :
      (Function.update shop.sets other next set).mappings.map Mapping.id =
        if other = set then next.mappings.map Mapping.id
        else (shop.sets set).mappings.map Mapping.id := by
    by_cases same : other = set
    · simp [same]
    · simp [same, Ne.symm same]
  cases dealing with
  | make slot => rfl
  | copy source slot =>
      rw [Workshop.step]
      split <;> rfl
  | edit place change =>
      cases place with
      | held slot => rfl
      | listed other index =>
          refine (updated other _).trans ?_
          rw [change.ids_modify]
          change _ = (shop.sets set).mappings.map Mapping.id
          by_cases same : other = set <;> simp [same]
      | sealed number index => rfl
  | drop slot => rfl
  | insert slot other =>
      rw [Workshop.step, listing]
      cases held : shop.held slot with
      | none => simp
      | some mapping =>
          have taken := congrArg Prod.fst (follows.insert sound few held other)
          refine (updated other _).trans ?_
          rw [taken]
          by_cases same : other = set <;> simp [same, MappingSet.append]
  | add other origin =>
      refine (updated other _).trans ?_
      rw [listing]
      by_cases same : other = set
      · rw [if_pos same, if_pos same, same, MappingSet.append, List.map_append]
        rfl
      · rw [if_neg same, if_neg same]
  | freeze other => exact updated other {}

/-- So a set lists what has come to it, in this order. -/
theorem Follows.ids_foldl (follows : shop.Follows catalogue) (sound : catalogue.Sound)
    {dealings : List (Dealing ι σ)}
    (few : (dealings.foldl Workshop.step shop).given.length < UInt64.size) (set : σ) :
    ((dealings.foldl Workshop.step shop).sets set).mappings.map Mapping.id =
      arrivals set shop ((shop.sets set).mappings.map Mapping.id) dealings := by
  induction dealings generalizing shop catalogue with
  | nil => rfl
  | cons dealing rest ih =>
      have room := follows.count_lt few
      rw [List.foldl_cons, arrivals, ← follows.ids_step sound room dealing set]
      exact ih (follows.step sound room dealing) (sound.step dealing) few

/-- A step changes what a mapping holds by the changes that are made to it, and by nothing else. -/
theorem Follows.mapping_step (follows : shop.Follows catalogue) (sound : catalogue.Sound)
    (few : catalogue.count < UInt64.size) {number : Nat} (known : number < catalogue.count)
    (dealing : Dealing ι σ) : (catalogue.step dealing).mapping number =
      (catalogue.mapping number).edited
        (shop.addressed (catalogue.mapping number).id dealing) := by
  have entered (content : Mapping) (layout : Layout ι σ Nat) :
      (catalogue.enter content layout).mapping number = catalogue.mapping number := by
    rw [Catalogue.mapping_enter, Function.update_of_ne known.ne]
  cases dealing with
  | make slot => exact entered _ _
  | copy source slot =>
      rw [Catalogue.step]
      split
      · rfl
      · exact entered _ _
  | edit place change =>
      rcases place.sealed_or_free with ⟨number, index, rfl⟩ | free
      · rfl
      · rw [Catalogue.step_edit free, shop.addressed_edit free, follows.at? place]
        cases there : catalogue.layout.at? place with
        | none => rfl
        | some other =>
            change (catalogue.amend other change).mapping number = _
            rw [Catalogue.mapping_amend]
            by_cases same : number = other
            · simp [same, Mapping.edited]
            · have differs : (catalogue.mapping other).id ≠ (catalogue.mapping number).id :=
                fun equal => same
                  (Catalogue.eq_of_id few known (sound.known place other there) equal.symm)
              simp [same, differs, Mapping.edited]
  | drop slot => rfl
  | insert slot set =>
      rw [Catalogue.step]
      split <;> rfl
  | add set origin => exact entered _ _
  | freeze set => rfl

/-- So it is however long one goes on. -/
theorem Follows.mapping_foldl (follows : shop.Follows catalogue) (sound : catalogue.Sound)
    {dealings : List (Dealing ι σ)}
    (few : (dealings.foldl Workshop.step shop).given.length < UInt64.size) {number : Nat}
    (known : number < catalogue.count) :
    (dealings.foldl Catalogue.step catalogue).mapping number =
      (catalogue.mapping number).edited
        (editsTo (catalogue.mapping number).id shop dealings) := by
  induction dealings generalizing shop catalogue with
  | nil => rfl
  | cons dealing rest ih =>
      have room := follows.count_lt few
      have still : ((catalogue.step dealing).mapping number).id = (catalogue.mapping number).id :=
        rfl
      have later := ih (follows.step sound room dealing) (sound.step dealing) few
        (known.trans_le (catalogue.count_le_step dealing))
      rw [still, follows.mapping_step sound room known dealing] at later
      rw [List.foldl_cons, later, editsTo, Mapping.edited, Mapping.edited, Mapping.edited,
        List.foldl_append]

/-- The catalogue tells of every workshop in which the counter has not run out. -/
theorem follows_run {dealings : List (Dealing ι σ)}
    (few : (run dealings).given.length < UInt64.size) :
    (run dealings).Follows (Catalogue.run dealings) ∧ (Catalogue.run dealings).Sound :=
  follows_start.foldl Catalogue.sound_start few

/-- A sealed set keeps what the set had, in its order, whatever is done later. -/
theorem sealed_of_freeze (shop : Workshop ι σ) (set : σ) (more : List (Dealing ι σ)) :
    (more.foldl step (shop.step (.freeze set))).sealed[shop.sealed.length]? =
      some ⟨(shop.sets set).mappings⟩ := by
  obtain ⟨later, after⟩ := ((shop.step (.freeze set)).kept_foldl more).2
  rw [← after]
  simp [Workshop.step, MappingSet.seal]

/-- What stands under an identity changes by the edits made to that identity. -/
theorem Follows.eq_edited (follows : shop.Follows catalogue) (sound : catalogue.Sound)
    {more : List (Dealing ι σ)}
    (few : (more.foldl Workshop.step shop).given.length < UInt64.size)
    {first second : Place ι σ} {before after : Mapping}
    (stood : shop.layout.at? first = some before)
    (stands : (more.foldl Workshop.step shop).layout.at? second = some after)
    (same : after.id = before.id) : after = before.edited (editsTo before.id shop more) := by
  obtain ⟨later, still⟩ := follows.foldl sound few
  rw [follows.at?] at stood
  rw [later.at?] at stands
  obtain ⟨number, numbered, rfl⟩ := Option.map_eq_some_iff.mp stood
  obtain ⟨another, renumbered, rfl⟩ := Option.map_eq_some_iff.mp stands
  have known := sound.known first number numbered
  have few' : (more.foldl Catalogue.step catalogue).count < UInt64.size :=
    later.length_given ▸ few
  have within := known.trans_le (catalogue.count_le_foldl more)
  obtain rfl : another = number :=
    Catalogue.eq_of_id few' (still.known second another renumbered) within same
  exact follows.mapping_foldl sound few known

/-- Whatever callers do with mappings, as long as the counter of identities has not run out: The
identities rise as mappings are made, and mappings are where the catalogue has them. No two places
have mappings of one identity. A set takes each mapping that a caller may insert, and lists what
came to it in the order of arrival, each mapping once. A collector lists every mapping that is
handed over, and a sealed set stays as the set was. A copy has the content of its original, and
from there on each of the two changes by the edits that are made to itself, and by nothing else. -/
theorem mappings_stay_apart (dealings : List (Dealing ι σ))
    (few : (run dealings).given.length < UInt64.size) :
    let shop := run dealings
    let catalogue := Catalogue.run dealings
    shop.given.Pairwise (· < ·) ∧
      shop.given.length = catalogue.count ∧
      (∀ number < catalogue.count,
        shop.given[number]? = some (catalogue.mapping number).id) ∧
      shop.layout = catalogue.layout.map catalogue.mapping ∧
      (∀ first second one other, shop.layout.at? first = some one →
        shop.layout.at? second = some other → one.id = other.id → first = second) ∧
      (∀ slot mapping set, shop.held slot = some mapping →
        (shop.sets set).insert mapping = ((shop.sets set).append mapping, true)) ∧
      (∀ set, (shop.sets set).mappings.map Mapping.id = arrivals set {} [] dealings ∧
        (arrivals set {} [] dealings).Nodup) ∧
      (∀ slots : List ι, slots.Nodup → ∀ loader contributors set,
        ((Bootstrap.collect loader (slots.filterMap shop.held) contributors).run
          shop.counters).result = .ok set →
        ∃ added, set.mappings = slots.filterMap shop.held ++ added ∧
          (shop.given.length + added.length < UInt64.size →
            (set.mappings.map Mapping.id).Nodup)) ∧
      (∀ set more, (run (dealings ++ .freeze set :: more)).sealed[shop.sealed.length]? =
        some ⟨(shop.sets set).mappings⟩) ∧
      (∀ source slot original, shop.layout.at? source = some original →
        (shop.step (.copy source slot)).layout.at? =
          Function.update shop.layout.at? (.held slot)
            (some (original.copy shop.counters.mapping))) ∧
      (∀ more first second before after,
        (run (dealings ++ more)).given.length < UInt64.size →
        shop.layout.at? first = some before →
        (run (dealings ++ more)).layout.at? second = some after → after.id = before.id →
        after = before.edited (editsTo before.id shop more)) := by
  intro shop catalogue
  obtain ⟨follows, sound⟩ := follows_run few
  have room : catalogue.count < UInt64.size := follows.length_given ▸ few
  have within : (1 : MappingId).toNat + catalogue.count ≤ UInt64.size := by
    change 1 + catalogue.count ≤ UInt64.size
    omega
  have after (more : List (Dealing ι σ)) : run (dealings ++ more) = more.foldl step shop :=
    List.foldl_append
  refine ⟨?_, follows.length_given, fun number known => follows.getElem?_given known,
    follows.layout, ?_, ?_, ?_, ?_, ?_, ?_, ?_⟩
  · rw [follows.given]
    exact Bootstrap.pairwise_idsFrom 1 within
  · intro first second one other here there same
    exact follows.eq_of_id sound room here there same
  · intro slot mapping set held
    exact follows.insert sound room held set
  · intro set
    have listed : (shop.sets set).mappings.map Mapping.id = arrivals set {} [] dealings :=
      follows_start.ids_foldl Catalogue.sound_start few set
    exact ⟨listed, listed ▸ follows.nodup_set sound room set⟩
  · intro slots apart loader contributors set collected
    exact follows.collect sound room apart collected
  · intro set more
    rw [after]
    exact shop.sealed_of_freeze set more
  · intro source slot original there
    rw [step, there]
    exact shop.layout.at?_put slot _
  · intro more first second before later few' stood stands same
    rw [after] at few' stands
    exact follows.eq_edited sound few' stood stands same

/-- An order is copied and the copy is copied again. The last copy is edited and inserted before
the original, which stays as it was, and a builder adds a mapping behind the two. -/
theorem mappings_stay_apart_of_copied_orders :
    let onTotal : Mapping.Change := .place "Order" [⟨.field "total", ⟨"acme.Positive"⟩⟩]
    let onBuyer : Mapping.Change := .place "Order" [⟨.field "buyer", ⟨"acme.Known"⟩⟩]
    let dealings : List (Dealing Nat Unit) :=
      [.make 0, .edit (.held 0) onTotal, .copy (.held 0) 1, .copy (.held 1) 2]
    let more : List (Dealing Nat Unit) :=
      [.edit (.held 2) onBuyer, .insert 2 (), .insert 0 (), .add () (.discovered "orders"),
        .edit (.listed () 2) onBuyer, .freeze (), .edit (.held 1) onBuyer]
    let shop := run dealings
    let later := run (dealings ++ more)
    shop.given.length < UInt64.size ∧ later.given.length < UInt64.size ∧
      shop.given = [1, 2, 3] ∧ shop.given.Pairwise (· < ·) ∧
      later.sealed.map (fun set => set.mappings.map Mapping.id) = [[3, 1, 4]] ∧
      ∃ original copied edited, shop.layout.at? (.held 0) = some original ∧
        shop.layout.at? (.held 2) = some copied ∧ copied = original.copy 3 ∧
        later.layout.at? (.sealed 0 0) = some edited ∧ edited = onBuyer.apply copied ∧
        later.layout.at? (.sealed 0 1) = some original := by
  intro onTotal onBuyer dealings more shop later
  have few : shop.given.length < UInt64.size := by decide
  have few' : later.given.length < UInt64.size := by decide
  obtain ⟨rising, -, -, -, -, -, -, -, -, -, apart⟩ := mappings_stay_apart dealings few
  let original : Mapping := onTotal.apply ⟨1, .preSupplied, [], []⟩
  let edited : Mapping := onBuyer.apply (original.copy 3)
  have changes : editsTo 3 shop more = [onBuyer] := rfl
  have changed : edited = (original.copy 3).edited (editsTo 3 shop more) :=
    apart more (.held 2) (.sealed 0 0) (original.copy 3) edited few' rfl rfl rfl
  rw [changes] at changed
  exact ⟨few, few', rfl, rising, rfl, original, original.copy 3, edited, rfl, rfl, rfl, rfl,
    changed, rfl⟩

end BeanConstraints.Workshop
