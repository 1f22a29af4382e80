/-
# A catalogue of mappings

The catalogue is what one would like to say of those who deal with mappings. It numbers
mappings as they are made, without end, knows each by its number, and never looks whether a
set has a mapping already. What a number stands for is the content that was entered under it,
with the identity that comes at that number.

Every mapping of a catalogue is at one place at most: a copy is entered under a number of its
own, and a mapping that comes to a set has left its caller.
-/

import BeanConstraints.Proofs.Workshop

namespace BeanConstraints

/-- Mappings as they are thought of: numbered as they are made, with the content of each, whatever
its identity, and where it is. -/
structure Catalogue (ι σ : Type) where
  count : Nat := 0
  content : Nat → Mapping := fun _ => default
  layout : Layout ι σ Nat := ⟨fun _ => none, fun _ => [], []⟩

namespace Catalogue

variable {ι σ : Type}

/-- The mapping of a number, with the identity that comes at that number. -/
def mapping (catalogue : Catalogue ι σ) (number : Nat) : Mapping :=
  (catalogue.content number).copy (.ofNat (number + 1))

/-- Enter a mapping under the next number. -/
def enter (catalogue : Catalogue ι σ) (content : Mapping) (layout : Layout ι σ Nat) :
    Catalogue ι σ where
  count := catalogue.count + 1
  content := Function.update catalogue.content catalogue.count content
  layout := layout

/-- Change the content of a mapping. -/
def amend (catalogue : Catalogue ι σ) (number : Nat) (change : Mapping.Change) : Catalogue ι σ :=
  { catalogue with
    content := Function.update catalogue.content number (change.apply (catalogue.content number)) }

/-- Do one thing. Where there is no mapping, nothing is done. -/
def step [DecidableEq ι] [DecidableEq σ] (catalogue : Catalogue ι σ) :
    Dealing ι σ → Catalogue ι σ
  | .make slot =>
      catalogue.enter ⟨0, .preSupplied, [], []⟩ (catalogue.layout.put slot catalogue.count)
  | .copy source slot =>
      match catalogue.layout.at? source with
      | none => catalogue
      | some number =>
          catalogue.enter (catalogue.content number) (catalogue.layout.put slot catalogue.count)
  | .edit (.sealed _ _) _ => catalogue
  | .edit place change =>
      match catalogue.layout.at? place with
      | none => catalogue
      | some number => catalogue.amend number change
  | .drop slot => { catalogue with layout := catalogue.layout.take slot }
  | .insert slot set =>
      match catalogue.layout.held slot with
      | none => catalogue
      | some number =>
          { catalogue with layout := (catalogue.layout.take slot).append set number }
  | .add set origin =>
      catalogue.enter ⟨0, origin, [], []⟩ (catalogue.layout.append set catalogue.count)
  | .freeze set => { catalogue with layout := catalogue.layout.freeze set }

/-- Do things one after the other. -/
def run [DecidableEq ι] [DecidableEq σ] (dealings : List (Dealing ι σ)) : Catalogue ι σ :=
  dealings.foldl step {}

/-- A catalogue in which every mapping is at one place at most, and every number was given out. -/
structure Sound (catalogue : Catalogue ι σ) : Prop where
  apart : catalogue.layout.Apart
  known : ∀ place number, catalogue.layout.at? place = some number → number < catalogue.count

theorem sound_start : Sound ({} : Catalogue ι σ) where
  apart first second number there := by cases first <;> cases there
  known place number there := by cases place <;> cases there

variable {catalogue later : Catalogue ι σ}

/-- The next number is at no place yet. -/
theorem Sound.fresh (sound : catalogue.Sound) (place : Place ι σ) :
    catalogue.layout.at? place ≠ some catalogue.count :=
  fun there => Nat.lt_irrefl _ (sound.known place catalogue.count there)

/-- Mappings may be moved, as long as they do not come to two places. -/
theorem Sound.of_moved (sound : catalogue.Sound) (count : later.count = catalogue.count)
    (apart : later.layout.Apart) (before : ∀ place number, later.layout.at? place = some number →
      ∃ origin, catalogue.layout.at? origin = some number) : later.Sound where
  apart := apart
  known place number there := by
    obtain ⟨origin, stood⟩ := before place number there
    exact count ▸ sound.known origin number stood

theorem mapping_enter (catalogue : Catalogue ι σ) (content : Mapping) (layout : Layout ι σ Nat) :
    (catalogue.enter content layout).mapping = Function.update catalogue.mapping catalogue.count
      (content.copy (.ofNat (catalogue.count + 1))) := by
  funext number
  by_cases last : number = catalogue.count <;> simp [mapping, enter, last]

theorem mapping_amend (catalogue : Catalogue ι σ) (number : Nat) (change : Mapping.Change) :
    (catalogue.amend number change).mapping =
      Function.update catalogue.mapping number (change.apply (catalogue.mapping number)) := by
  funext other
  by_cases same : other = number
  · simp [mapping, amend, same, Mapping.Change.apply_copy]
  · simp [mapping, amend, same]

/-- Identities count up from the first one. -/
theorem id_mapping (catalogue : Catalogue ι σ) (number : Nat) :
    (catalogue.mapping number).id = 1 + .ofNat number := by
  change UInt64.ofNat (number + 1) = 1 + .ofNat number
  rw [Nat.add_comm, UInt64.ofNat_add]
  rfl

/-- Until the counter runs out, identities tell numbers apart. -/
theorem eq_of_id (few : catalogue.count < UInt64.size) {first second : Nat}
    (known : first < catalogue.count) (known' : second < catalogue.count)
    (same : (catalogue.mapping first).id = (catalogue.mapping second).id) : first = second := by
  have alike : (first + 1) % UInt64.size = (second + 1) % UInt64.size := by
    have values := congrArg UInt64.toNat same
    simpa [mapping, Mapping.copy, UInt64.toNat_ofNat'] using values
  rw [Nat.mod_eq_of_lt (by omega), Nat.mod_eq_of_lt (by omega)] at alike
  exact Nat.succ.inj alike

/-- What a new mapping stands for is put where its number is. -/
theorem Sound.map_put [DecidableEq ι] (sound : catalogue.Sound) (content : Mapping) (slot : ι) :
    (catalogue.layout.put slot catalogue.count).map
        (catalogue.enter content (catalogue.layout.put slot catalogue.count)).mapping =
      (catalogue.layout.map catalogue.mapping).put slot
        (content.copy (.ofNat (catalogue.count + 1))) := by
  rw [mapping_enter, Layout.map_put, Layout.map_of_fresh sound.fresh, Function.update_self]

theorem Sound.map_append [DecidableEq σ] (sound : catalogue.Sound) (content : Mapping) (set : σ) :
    (catalogue.layout.append set catalogue.count).map
        (catalogue.enter content (catalogue.layout.append set catalogue.count)).mapping =
      (catalogue.layout.map catalogue.mapping).append set
        (content.copy (.ofNat (catalogue.count + 1))) := by
  rw [mapping_enter, Layout.map_append, Layout.map_of_fresh sound.fresh, Function.update_self]

variable [DecidableEq ι] [DecidableEq σ]

/-- A mapping may be entered at any place. -/
theorem Sound.enter (sound : catalogue.Sound) (content : Mapping) {layout : Layout ι σ Nat}
    {place : Place ι σ} (moved : layout.at? =
      Function.update catalogue.layout.at? place (some catalogue.count)) :
    (catalogue.enter content layout).Sound where
  apart := sound.apart.of_update moved sound.fresh
  known other number there := by
    change layout.at? other = some number at there
    change number < catalogue.count + 1
    rw [moved] at there
    by_cases here : other = place
    · rw [here, Function.update_self] at there
      cases there
      exact Nat.lt_succ_self _
    · rw [Function.update_of_ne here] at there
      exact Nat.lt_succ_of_lt (sound.known other number there)

theorem step_edit {place : Place ι σ} (free : ∀ number index, place ≠ .sealed number index)
    (change : Mapping.Change) : catalogue.step (.edit place change) =
      match catalogue.layout.at? place with
      | none => catalogue
      | some number => catalogue.amend number change := by
  cases place with
  | sealed number index => exact absurd rfl (free number index)
  | _ => rfl

/-- An edit neither makes a mapping nor moves one. -/
theorem layout_edit (catalogue : Catalogue ι σ) (place : Place ι σ) (change : Mapping.Change) :
    (catalogue.step (.edit place change)).layout = catalogue.layout ∧
      (catalogue.step (.edit place change)).count = catalogue.count := by
  cases place with
  | sealed number index => exact ⟨rfl, rfl⟩
  | _ =>
      rw [step_edit (by simp)]
      split <;> exact ⟨rfl, rfl⟩

/-- Whatever is done, no mapping comes to two places. -/
theorem Sound.step (sound : catalogue.Sound) (dealing : Dealing ι σ) :
    (catalogue.step dealing).Sound := by
  cases dealing with
  | make slot => exact sound.enter _ (catalogue.layout.at?_put slot _)
  | copy source slot =>
      rw [Catalogue.step]
      split
      · exact sound
      · exact sound.enter _ (catalogue.layout.at?_put slot _)
  | edit place change =>
      obtain ⟨layout, count⟩ := catalogue.layout_edit place change
      exact sound.of_moved count (layout ▸ sound.apart) fun place number there =>
        ⟨place, layout ▸ there⟩
  | drop slot =>
      exact sound.of_moved rfl (sound.apart.take slot) fun place number there =>
        ⟨place, (Layout.at?_of_take there).2⟩
  | insert slot set =>
      rw [Catalogue.step]
      split
      · exact sound
      · rename_i number held
        refine sound.of_moved rfl (sound.apart.move held set) fun place other there => ?_
        simp only [Layout.at?_append] at there
        by_cases here : place = .listed set ((catalogue.layout.take slot).sets set).length
        · rw [here, Function.update_self] at there
          exact ⟨.held slot, held.trans there⟩
        · rw [Function.update_of_ne here] at there
          exact ⟨place, (Layout.at?_of_take there).2⟩
  | add set origin => exact sound.enter _ (catalogue.layout.at?_append set _)
  | freeze set =>
      refine sound.of_moved rfl (sound.apart.freeze set) fun place number there => ?_
      rw [Catalogue.step, Layout.at?_freeze] at there
      obtain ⟨origin, -, stood⟩ := Option.bind_eq_some_iff.mp there
      exact ⟨origin, stood⟩

/-- The count of mappings never falls. -/
theorem count_le_step (catalogue : Catalogue ι σ) (dealing : Dealing ι σ) :
    catalogue.count ≤ (catalogue.step dealing).count := by
  cases dealing with
  | make slot => exact Nat.le_succ _
  | copy source slot =>
      rw [Catalogue.step]
      split
      · exact Nat.le_refl _
      · exact Nat.le_succ _
  | edit place change => exact Nat.le_of_eq (catalogue.layout_edit place change).2.symm
  | insert slot set =>
      rw [Catalogue.step]
      split <;> exact Nat.le_refl _
  | add set origin => exact Nat.le_succ _
  | _ => exact Nat.le_refl _

theorem count_le_foldl (catalogue : Catalogue ι σ) (dealings : List (Dealing ι σ)) :
    catalogue.count ≤ (dealings.foldl step catalogue).count := by
  induction dealings generalizing catalogue with
  | nil => exact Nat.le_refl _
  | cons dealing rest ih => exact Nat.le_trans (catalogue.count_le_step dealing) (ih _)

end Catalogue

end BeanConstraints
