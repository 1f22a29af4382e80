/-
# Things at their places

Callers hold things and move them into sets, which are sealed when they are complete. A
layout is where the things are at some time. Whatever callers do changes what is at one
place, or brings the things of a set to places in a sealed one, so no thing comes to two
places: what is held by a caller is nowhere else, and moving it leaves nothing behind.
-/

import Mathlib.Logic.Function.Basic

namespace BeanConstraints

/-- A place for a thing: with a caller, in a set that still grows, or in a sealed set. -/
inductive Place (ι σ : Type) where
  | held (slot : ι)
  | listed (set : σ) (index : Nat)
  | sealed (number index : Nat)
  deriving DecidableEq

/-- Things at their places. -/
structure Layout (ι σ α : Type) where
  held : ι → Option α
  sets : σ → List α
  sealed : List (List α)

/-- A place is in a sealed set, or what is there may be changed. -/
theorem Place.sealed_or_free {ι σ : Type} (place : Place ι σ) :
    (∃ number index, place = .sealed number index) ∨
      ∀ number index, place ≠ .sealed number index := by
  cases place with
  | sealed number index => exact .inl ⟨number, index, rfl⟩
  | _ => exact .inr nofun

namespace Layout

variable {ι σ α β : Type}

/-- What is at a place. -/
def at? (layout : Layout ι σ α) : Place ι σ → Option α
  | .held slot => layout.held slot
  | .listed set index => (layout.sets set)[index]?
  | .sealed number index => layout.sealed[number]?.bind fun things => things[index]?

/-- Other things at the same places. -/
def map (layout : Layout ι σ α) (f : α → β) : Layout ι σ β where
  held slot := (layout.held slot).map f
  sets set := (layout.sets set).map f
  sealed := layout.sealed.map (List.map f)

theorem at?_map (layout : Layout ι σ α) (f : α → β) (place : Place ι σ) :
    (layout.map f).at? place = (layout.at? place).map f := by
  cases place with
  | held slot => rfl
  | listed set index => exact List.getElem?_map
  | sealed number index =>
      simp only [at?, map, List.getElem?_map]
      cases layout.sealed[number]? <;> simp

/-- A layout is known by what is where and by how many sets are sealed. -/
theorem ext_at? {first second : Layout ι σ α}
    (things : ∀ place, first.at? place = second.at? place)
    (count : first.sealed.length = second.sealed.length) : first = second := by
  obtain ⟨held, sets, frozen⟩ := first
  obtain ⟨held', sets', frozen'⟩ := second
  have sameHeld : held = held' := funext fun slot => things (.held slot)
  have sameSets : sets = sets' :=
    funext fun set => List.ext_getElem? fun index => things (.listed set index)
  have sameSealed : frozen = frozen' := by
    refine List.ext_getElem count fun number within within' => List.ext_getElem? fun index => ?_
    simpa [at?, within, within'] using things (.sealed number index)
  rw [sameHeld, sameSets, sameSealed]

/-- What is at no place does not matter to a layout. -/
theorem map_of_fresh [DecidableEq α] {layout : Layout ι σ α} {f : α → β} {thing : α}
    (fresh : ∀ place, layout.at? place ≠ some thing) (value : β) :
    layout.map (Function.update f thing value) = layout.map f := by
  apply ext_at?
  · intro place
    rw [at?_map, at?_map]
    refine Option.map_congr fun present within => Function.update_of_ne ?_ _ _
    rintro rfl
    exact fresh place within
  · simp [map]

/-- Each thing is at one place at most. -/
def Apart (layout : Layout ι σ α) : Prop :=
  ∀ first second thing, layout.at? first = some thing → layout.at? second = some thing →
    first = second

section

variable [DecidableEq ι] (layout : Layout ι σ α) (slot : ι)

/-- A caller holds something, instead of what it has held. -/
def put (thing : α) : Layout ι σ α :=
  { layout with held := Function.update layout.held slot (some thing) }

/-- A caller lets go of what it holds. -/
def take : Layout ι σ α :=
  { layout with held := Function.update layout.held slot none }

theorem map_put (f : α → β) (thing : α) :
    (layout.put slot thing).map f = (layout.map f).put slot (f thing) := by
  have held := Function.comp_update (Option.map f) layout.held slot (some thing)
  exact congrArg (Layout.mk · _ _) held

theorem map_take (f : α → β) : (layout.take slot).map f = (layout.map f).take slot := by
  have held := Function.comp_update (Option.map f) layout.held slot none
  exact congrArg (Layout.mk · _ _) held

end

section

variable [DecidableEq σ] (layout : Layout ι σ α) (set : σ)

/-- Something is added to a set. -/
def append (thing : α) : Layout ι σ α :=
  { layout with sets := Function.update layout.sets set (layout.sets set ++ [thing]) }

/-- A set is sealed, and an empty one takes its place. -/
def freeze : Layout ι σ α :=
  { layout with
    sets := Function.update layout.sets set []
    sealed := layout.sealed ++ [layout.sets set] }

theorem map_append (f : α → β) (thing : α) :
    (layout.append set thing).map f = (layout.map f).append set (f thing) := by
  have sets := Function.comp_update (List.map f) layout.sets set (layout.sets set ++ [thing])
  rw [List.map_append] at sets
  exact congrArg (Layout.mk _ · _) sets

theorem map_freeze (f : α → β) : (layout.freeze set).map f = (layout.map f).freeze set := by
  have sets := Function.comp_update (List.map f) layout.sets set []
  have added : (layout.sealed ++ [layout.sets set]).map (List.map f) =
      layout.sealed.map (List.map f) ++ [(layout.sets set).map f] := List.map_append
  exact congrArg₂ (Layout.mk _ · ·) sets added

/-- Where the thing at a place was before a set was sealed. -/
def unfrozen : Place ι σ → Option (Place ι σ)
  | .held slot => some (.held slot)
  | .listed other index => if other = set then none else some (.listed other index)
  | .sealed number index =>
      if number = layout.sealed.length then some (.listed set index)
      else some (.sealed number index)

theorem at?_freeze (place : Place ι σ) :
    (layout.freeze set).at? place = (layout.unfrozen set place).bind layout.at? := by
  cases place with
  | held slot => rfl
  | listed other index =>
      by_cases same : other = set <;> simp [at?, freeze, unfrozen, same]
  | sealed number index =>
      by_cases last : number = layout.sealed.length
      · simp [at?, freeze, unfrozen, last]
      · have before : (layout.sealed ++ [layout.sets set])[number]? = layout.sealed[number]? := by
          grind
        simp [at?, freeze, unfrozen, last, before]

variable {layout set}

/-- Sealing brings no two things to one place. -/
theorem unfrozen_injective {first second place : Place ι σ}
    (one : layout.unfrozen set first = some place)
    (other : layout.unfrozen set second = some place) : first = second := by
  cases first <;> cases second <;> grind [unfrozen]

theorem Apart.freeze (apart : layout.Apart) (set : σ) : (layout.freeze set).Apart := by
  intro first second thing one other
  rw [at?_freeze] at one other
  obtain ⟨origin, moved, one⟩ := Option.bind_eq_some_iff.mp one
  obtain ⟨place, left, other⟩ := Option.bind_eq_some_iff.mp other
  rw [apart origin place thing one other] at moved
  exact unfrozen_injective moved left

end

section

variable [DecidableEq ι] [DecidableEq σ] (layout : Layout ι σ α)

/-- Change what is at a place, unless it is sealed. -/
def edit (change : α → α) : Place ι σ → Layout ι σ α
  | .held slot =>
      { layout with held := Function.update layout.held slot ((layout.held slot).map change) }
  | .listed set index =>
      { layout with
        sets := Function.update layout.sets set ((layout.sets set).modify index change) }
  | .sealed _ _ => layout

theorem at?_put (slot : ι) (thing : α) : (layout.put slot thing).at? =
    Function.update layout.at? (.held slot) (some thing) := by
  funext place
  cases place <;> simp [at?, put, Function.update_apply]

theorem at?_take (slot : ι) :
    (layout.take slot).at? = Function.update layout.at? (.held slot) none := by
  funext place
  cases place <;> simp [at?, take, Function.update_apply]

theorem at?_append (set : σ) (thing : α) : (layout.append set thing).at? =
    Function.update layout.at? (.listed set (layout.sets set).length) (some thing) := by
  funext place
  cases place with
  | listed other index =>
      by_cases same : other = set
      · have last : (layout.sets set ++ [thing])[index]? =
            if index = (layout.sets set).length then some thing else (layout.sets set)[index]? := by
          grind
        simp [at?, append, same, last, Function.update_apply]
      · simp [at?, append, same]
  | _ => simp [at?, append]

theorem at?_edit (change : α → α) {place : Place ι σ}
    (free : ∀ number index, place ≠ .sealed number index) : (layout.edit change place).at? =
      Function.update layout.at? place ((layout.at? place).map change) := by
  funext other
  cases place with
  | held slot => cases other <;> simp [at?, edit, Function.update_apply]
  | listed set index =>
      cases other with
      | listed another position =>
          by_cases same : another = set
          · by_cases here : position = index
            · simp [at?, edit, same, here]
            · simp [at?, edit, same, here, Ne.symm here]
          · simp [at?, edit, same]
      | _ => simp [at?, edit]
  | sealed number index => exact absurd rfl (free number index)

variable {layout} {place : Place ι σ} {thing : α}

/-- What is at one place is edited there by changing what it stands for. -/
theorem map_edit {f : α → β} [DecidableEq α] (apart : layout.Apart)
    (there : layout.at? place = some thing)
    (free : ∀ number index, place ≠ .sealed number index) (change : β → β) :
    layout.map (Function.update f thing (change (f thing))) = (layout.map f).edit change place := by
  apply ext_at?
  · intro other
    rw [at?_map, at?_edit _ _ free, at?_map, there]
    by_cases same : other = place
    · simp [same, there]
    · rw [Function.update_of_ne same, at?_map]
      refine Option.map_congr fun present within => Function.update_of_ne ?_ _ _
      rintro rfl
      exact same (apart other place present within there)
  · cases place <;> simp [map, edit]

theorem edit_of_none (missing : layout.at? place = none) (change : α → α) :
    layout.edit change place = layout := by
  cases place with
  | held slot =>
      have nothing : (layout.held slot).map change = layout.held slot := by
        rw [show layout.held slot = none from missing]
        rfl
      rw [edit, nothing, Function.update_eq_self]
  | listed set index =>
      have beyond : (layout.sets set).length ≤ index := List.getElem?_eq_none_iff.mp missing
      simp [edit, List.modify_eq_self beyond]
  | sealed number index => rfl

theorem Apart.of_update {later : Layout ι σ α} (apart : layout.Apart)
    (moved : later.at? = Function.update layout.at? place (some thing))
    (fresh : ∀ other, layout.at? other ≠ some thing) : later.Apart := by
  intro first second present one other
  rw [moved] at one other
  by_cases here : first = place <;> by_cases there : second = place
  · rw [here, there]
  · rw [here, Function.update_self] at one
    rw [Function.update_of_ne there, ← one] at other
    exact absurd other (fresh second)
  · rw [there, Function.update_self] at other
    rw [Function.update_of_ne here, ← other] at one
    exact absurd one (fresh first)
  · rw [Function.update_of_ne here] at one
    rw [Function.update_of_ne there] at other
    exact apart first second present one other

theorem Apart.append (apart : layout.Apart) (fresh : ∀ other, layout.at? other ≠ some thing)
    (set : σ) : (layout.append set thing).Apart :=
  apart.of_update (layout.at?_append set thing) fresh

theorem at?_of_take {slot : ι} (there : (layout.take slot).at? place = some thing) :
    place ≠ .held slot ∧ layout.at? place = some thing := by
  rw [at?_take] at there
  by_cases same : place = .held slot
  · rw [same, Function.update_self] at there
    cases there
  · exact ⟨same, by rwa [Function.update_of_ne same] at there⟩

theorem Apart.take (apart : layout.Apart) (slot : ι) : (layout.take slot).Apart := by
  intro first second present one other
  exact apart first second present (at?_of_take one).2 (at?_of_take other).2

/-- What was held by one caller is nowhere once the caller has let go of it. -/
theorem Apart.move (apart : layout.Apart) {slot : ι} (held : layout.held slot = some thing)
    (set : σ) : ((layout.take slot).append set thing).Apart := by
  apply (apart.take slot).append
  intro other there
  obtain ⟨elsewhere, before⟩ := at?_of_take there
  exact elsewhere (apart other (.held slot) thing before held)

end

end Layout

end BeanConstraints
