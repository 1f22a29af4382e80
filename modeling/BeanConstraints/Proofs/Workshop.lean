/-
# Dealing with mappings

Callers make mappings, copy and edit them, move them into sets and seal the sets, in whatever
order, with one counter of identities between them. A mapping that was moved into a set has left
its caller. One that a builder adds to a set is handed out and edited where it stands.
-/

import BeanConstraints.Bootstrap.Basic
import BeanConstraints.Proofs.Layouts

namespace BeanConstraints

/-- One call that edits a mapping. -/
inductive Mapping.Change where
  | define (definition : Definition)
  | place (typeName : String) (placements : List Placement)

/-- What the call does to the mapping. -/
def Mapping.Change.apply : Change → Mapping → Mapping
  | define definition => fun mapping => mapping.define definition
  | place typeName placements => fun mapping => mapping.place typeName placements

/-- Editing leaves the identities as they are. -/
theorem Mapping.Change.ids_modify (change : Change) (mappings : List Mapping) (index : Nat) :
    (mappings.modify index change.apply).map Mapping.id = mappings.map Mapping.id := by
  have kept (mapping : Mapping) : (change.apply mapping).id = mapping.id := by
    cases change <;> rfl
  induction mappings generalizing index with
  | nil => rw [List.modify_nil]
  | cons mapping rest ih =>
      cases index with
      | zero => rw [List.modify_zero_cons, List.map_cons, List.map_cons, kept]
      | succ index => rw [List.modify_succ_cons, List.map_cons, List.map_cons, ih]

/-- Editing does not look at the identity. -/
theorem Mapping.Change.apply_copy (change : Change) (mapping : Mapping) (id : MappingId) :
    change.apply (mapping.copy id) = (change.apply mapping).copy id := by
  cases change <;> rfl

/-- A mapping after changes that are made one after the other. -/
def Mapping.edited (mapping : Mapping) (changes : List Change) : Mapping :=
  changes.foldl (fun mapping change => change.apply mapping) mapping

/-- What callers do with mappings that they hold at slots, and with sets of mappings. -/
inductive Dealing (ι σ : Type) where
  /-- Make a mapping without content. -/
  | make (slot : ι)
  | copy (source : Place ι σ) (slot : ι)
  | edit (place : Place ι σ) (change : Mapping.Change)
  | drop (slot : ι)
  /-- Move a mapping into a set. -/
  | insert (slot : ι) (set : σ)
  /-- Have a builder add a mapping to a set. -/
  | add (set : σ) (origin : Origin)
  | freeze (set : σ)

/-- Mappings in the hands of callers. -/
structure Workshop (ι σ : Type) where
  counters : Counters := {}
  /-- The identities that were given out, in their order. -/
  given : List MappingId := []
  held : ι → Option Mapping := fun _ => none
  sets : σ → MappingSet := fun _ => {}
  sealed : List SealedMappings := []

namespace Workshop

variable {ι σ : Type}

/-- Where the mappings are. -/
def layout (shop : Workshop ι σ) : Layout ι σ Mapping where
  held := shop.held
  sets set := (shop.sets set).mappings
  sealed := shop.sealed.map SealedMappings.mappings

/-- Draw an identity. -/
def draw (shop : Workshop ι σ) : MappingId × Workshop ι σ :=
  let (id, counters) := shop.counters.drawMapping
  (id, { shop with counters, given := shop.given ++ [id] })

/-- Do something to one set. -/
def withSet [DecidableEq σ] (shop : Workshop ι σ) (set : σ) (next : MappingSet) : Workshop ι σ :=
  { shop with sets := Function.update shop.sets set next }

/-- Have a caller hold a mapping or nothing. -/
def withHeld [DecidableEq ι] (shop : Workshop ι σ) (slot : ι) (next : Option Mapping) :
    Workshop ι σ :=
  { shop with held := Function.update shop.held slot next }

section

variable (shop : Workshop ι σ)

theorem layout_withHeld_some [DecidableEq ι] (slot : ι) (mapping : Mapping) :
    (shop.withHeld slot (some mapping)).layout = shop.layout.put slot mapping := rfl

theorem layout_withHeld_none [DecidableEq ι] (slot : ι) :
    (shop.withHeld slot none).layout = shop.layout.take slot := rfl

theorem layout_withSet [DecidableEq σ] (set : σ) (next : MappingSet) :
    (shop.withSet set next).layout =
      { shop.layout with sets := Function.update shop.layout.sets set next.mappings } := by
  have sets := Function.comp_update MappingSet.mappings shop.sets set next
  exact congrArg (Layout.mk _ · _) sets

/-- The changes that a step makes to the mapping of an identity. -/
def addressed (id : MappingId) : Dealing ι σ → List Mapping.Change
  | .edit (.sealed _ _) _ => []
  | .edit place change => if (shop.layout.at? place).map Mapping.id = some id then [change] else []
  | _ => []

theorem addressed_edit {place : Place ι σ} (free : ∀ number index, place ≠ .sealed number index)
    (id : MappingId) (change : Mapping.Change) :
    shop.addressed id (.edit place change) =
      if (shop.layout.at? place).map Mapping.id = some id then [change] else [] := by
  cases place with
  | sealed number index => exact absurd rfl (free number index)
  | _ => rfl

end

variable [DecidableEq ι] [DecidableEq σ]

/-- Do one thing. Where there is no mapping, nothing is done. -/
def step (shop : Workshop ι σ) : Dealing ι σ → Workshop ι σ
  | .make slot =>
      let (id, shop) := shop.draw
      shop.withHeld slot (some ⟨id, .preSupplied, [], []⟩)
  | .copy source slot =>
      match shop.layout.at? source with
      | none => shop
      | some mapping =>
          let (id, shop) := shop.draw
          shop.withHeld slot (some (mapping.copy id))
  | .edit (.held slot) change => shop.withHeld slot ((shop.held slot).map change.apply)
  | .edit (.listed set index) change =>
      shop.withSet set ⟨(shop.sets set).mappings.modify index change.apply⟩
  | .edit (.sealed _ _) _ => shop
  | .drop slot => shop.withHeld slot none
  | .insert slot set =>
      match shop.held slot with
      | none => shop
      | some mapping =>
          (shop.withHeld slot none).withSet set ((shop.sets set).insert mapping).1
  | .add set origin =>
      let (id, shop) := shop.draw
      shop.withSet set ((shop.sets set).append ⟨id, origin, [], []⟩)
  | .freeze set =>
      { shop.withSet set {} with sealed := shop.sealed ++ [(shop.sets set).seal] }

/-- Do things one after the other. -/
def run (dealings : List (Dealing ι σ)) : Workshop ι σ :=
  dealings.foldl step {}

/-- What stands in a set after a step, if whatever comes to the set is listed behind what came
before it, until the set is sealed. -/
def listing (set : σ) (shop : Workshop ι σ) (listed : List MappingId) :
    Dealing ι σ → List MappingId
  | .insert slot other =>
      if other = set then listed ++ ((shop.held slot).map Mapping.id).toList else listed
  | .add other _ => if other = set then listed ++ [shop.counters.mapping] else listed
  | .freeze other => if other = set then [] else listed
  | _ => listed

/-- The identities that come to a set one after the other. -/
def arrivals (set : σ) : Workshop ι σ → List MappingId → List (Dealing ι σ) → List MappingId
  | _, listed, [] => listed
  | shop, listed, dealing :: rest =>
      arrivals set (shop.step dealing) (listing set shop listed dealing) rest

/-- The changes that are made to the mapping of an identity one after the other. -/
def editsTo (id : MappingId) : Workshop ι σ → List (Dealing ι σ) → List Mapping.Change
  | _, [] => []
  | shop, dealing :: rest => shop.addressed id dealing ++ editsTo id (shop.step dealing) rest

variable (shop : Workshop ι σ)

/-- An edit changes the mapping at its place. -/
theorem layout_edit (place : Place ι σ) (change : Mapping.Change) :
    (shop.step (.edit place change)).layout = shop.layout.edit change.apply place := by
  cases place with
  | held slot => rfl
  | listed set index => exact shop.layout_withSet set _
  | sealed number index => rfl

theorem layout_freeze (set : σ) :
    (shop.step (.freeze set)).layout = shop.layout.freeze set := by
  have emptied := Function.comp_update MappingSet.mappings shop.sets set {}
  have added : (shop.sealed ++ [(shop.sets set).seal]).map SealedMappings.mappings =
      shop.sealed.map SealedMappings.mappings ++ [(shop.sets set).mappings] := List.map_append
  exact congrArg₂ (Layout.mk shop.held · ·) emptied added

/-- Identities stay given out, and sealed sets stay. -/
theorem kept_step (dealing : Dealing ι σ) :
    shop.given <+: (shop.step dealing).given ∧ shop.sealed <+: (shop.step dealing).sealed := by
  cases dealing with
  | make slot => exact ⟨List.prefix_append _ _, List.prefix_rfl⟩
  | copy source slot =>
      rw [Workshop.step]
      split
      · exact ⟨List.prefix_rfl, List.prefix_rfl⟩
      · exact ⟨List.prefix_append _ _, List.prefix_rfl⟩
  | edit place change => cases place <;> exact ⟨List.prefix_rfl, List.prefix_rfl⟩
  | drop slot => exact ⟨List.prefix_rfl, List.prefix_rfl⟩
  | insert slot set =>
      rw [Workshop.step]
      split <;> exact ⟨List.prefix_rfl, List.prefix_rfl⟩
  | add set origin => exact ⟨List.prefix_append _ _, List.prefix_rfl⟩
  | freeze set => exact ⟨List.prefix_rfl, List.prefix_append _ _⟩

theorem kept_foldl (dealings : List (Dealing ι σ)) :
    shop.given <+: (dealings.foldl Workshop.step shop).given ∧
      shop.sealed <+: (dealings.foldl Workshop.step shop).sealed := by
  induction dealings generalizing shop with
  | nil => exact ⟨List.prefix_rfl, List.prefix_rfl⟩
  | cons dealing rest ih =>
      obtain ⟨given, frozen⟩ := shop.kept_step dealing
      obtain ⟨later, after⟩ := ih (shop.step dealing)
      exact ⟨given.trans later, frozen.trans after⟩

end Workshop

end BeanConstraints
