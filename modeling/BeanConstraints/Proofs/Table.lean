/-
# Tables are their answers

Entries stand in strictly rising key order, so an entry is in a table exactly if
the table answers with it, and two tables that answer alike at every key are the
same table. Equality of tables is therefore equality of what they say, whatever
the order in which their entries were set. Of several entries that are set for one
key the last counts, and of two tables that are merged the upper one.
-/

import BeanConstraints.Table
import Mathlib.Data.Finset.Card
import Mathlib.Data.List.Sort

namespace BeanConstraints

/-- A list that is sorted by an order stands in it. -/
theorem pairwise_mergeSort_compare {κ : Type} [Ord κ] [Std.TransOrd κ] (list : List κ) :
    (list.mergeSort fun first second => (compare first second).isLE).Pairwise
      fun first second => (compare first second).isLE = true := by
  refine List.pairwise_mergeSort ?_ ?_ list
  · intro first second third before after
    exact Std.TransCmp.isLE_trans before after
  · intro first second
    have swap : compare second first = (compare first second).swap := Std.OrientedOrd.eq_swap
    rw [swap]
    cases compare first second <;> rfl

namespace Table

section

variable {κ ν : Type} [DecidableEq κ]

/-- The value that entries give to a key, the last one if there are several. -/
def latest? (entries : List (κ × ν)) (key : κ) : Option ν :=
  (entries.reverse.find? fun entry => entry.1 = key).map Prod.snd

theorem latest?_concat (entries : List (κ × ν)) (entry : κ × ν) (key : κ) :
    latest? (entries ++ [entry]) key =
      if entry.1 = key then some entry.2 else latest? entries key := by
  by_cases same : entry.1 = key <;> simp [latest?, same]

theorem isSome_latest? {entries : List (κ × ν)} {key : κ} :
    (latest? entries key).isSome = true ↔ key ∈ entries.map Prod.fst := by
  simp [latest?, List.find?_isSome]

/-- The last value of a key stands among the entries. -/
theorem mem_of_latest? {entries : List (κ × ν)} {key : κ} {value : ν}
    (last : latest? entries key = some value) : (key, value) ∈ entries := by
  obtain ⟨entry, found, rfl⟩ := Option.map_eq_some_iff.mp last
  have named : entry.1 = key := by simpa using List.find?_some found
  rw [← named]
  exact List.mem_reverse.mp (List.mem_of_find?_eq_some found)

end

variable {κ ν : Type} [Ord κ]

/-- Entries by the order of their keys. -/
def Before (first second : κ × ν) : Prop := compare first.1 second.1 = .lt

instance [Std.ReflOrd κ] : Std.Irrefl (Before (κ := κ) (ν := ν)) where
  irrefl entry below := by
    simp [Before, Std.ReflCmp.compare_self] at below

instance [Std.TransOrd κ] : Std.Antisymm (Before (κ := κ) (ν := ν)) where
  antisymm first second below above := by
    have twice := Std.TransCmp.lt_trans below above
    simp [Std.ReflCmp.compare_self] at twice

variable [Std.LawfulEqOrd κ]

/-- In rising entries every key is found with the one value that it has. -/
theorem lookup_eq_some_iff {key : κ} {value : ν} {entries : List (κ × ν)}
    (rising : entries.Pairwise Before) :
    lookup key entries = some value ↔ (key, value) ∈ entries := by
  induction entries with
  | nil => simp [lookup]
  | cons first rest ih =>
      obtain ⟨least, rising⟩ := List.pairwise_cons.mp rising
      rw [lookup, List.mem_cons]
      by_cases same : compare key first.1 = .eq
      · have named : first.1 = key := (Std.LawfulEqCmp.eq_of_compare same).symm
        have absent : (key, value) ∉ rest := by
          intro later
          have below : compare first.1 key = .lt := least _ later
          simp [named, Std.ReflCmp.compare_self] at below
        rw [if_pos same, or_iff_left absent, Prod.ext_iff, Option.some.injEq]
        exact ⟨fun held => ⟨named.symm, held.symm⟩, fun held => held.2.symm⟩
      · have apart : (key, value) ≠ first := by
          rintro rfl
          exact same Std.ReflCmp.compare_self
        rw [if_neg same, ih rising]
        simp [apart]

/-- A table answers with exactly its entries. -/
theorem get?_eq_some_iff {t : Table κ ν} {key : κ} {value : ν} :
    t.get? key = some value ↔ (key, value) ∈ t.entries :=
  lookup_eq_some_iff t.rising

/-- Tables that answer alike at every key are equal. -/
theorem ext_get? [Std.TransOrd κ] {t u : Table κ ν}
    (alike : ∀ key, t.get? key = u.get? key) : t = u := by
  have entries : t.entries = u.entries := by
    apply List.Pairwise.eq_of_mem_iff (r := Before) t.rising u.rising
    rintro ⟨key, value⟩
    rw [← get?_eq_some_iff, ← get?_eq_some_iff, alike key]
  cases t
  cases u
  cases entries
  rfl

theorem nodup_keys (t : Table κ ν) : t.keys.Nodup := by
  refine List.pairwise_map.mpr (t.rising.imp ?_)
  intro first second below same
  simp [same, Std.ReflCmp.compare_self] at below

theorem mem_keys {t : Table κ ν} {key : κ} : key ∈ t.keys ↔ t.contains key = true := by
  simp [keys, contains, Option.isSome_iff_exists, get?_eq_some_iff]

/-- A table counts its keys. -/
theorem size_eq_card [DecidableEq κ] {t : Table κ ν} {names : List κ}
    (same : ∀ key, t.contains key = true ↔ key ∈ names) : t.size = names.toFinset.card := by
  have keys : t.keys.toFinset = names.toFinset := by
    ext key
    rw [List.mem_toFinset, List.mem_toFinset, mem_keys, same]
  rw [← keys, List.toFinset_card_of_nodup t.nodup_keys]
  exact (List.length_map _).symm

/-- A table of size zero has no key. -/
theorem size_eq_zero_iff {t : Table κ ν} : t.size = 0 ↔ ∀ key, ¬ t.contains key = true := by
  unfold size
  rw [List.length_eq_zero_iff]
  refine ⟨?_, ?_⟩
  · intro nothing key there
    obtain ⟨value, held⟩ := Option.isSome_iff_exists.mp there
    have entry := get?_eq_some_iff.mp held
    rw [nothing] at entry
    cases entry
  · intro absent
    refine List.eq_nil_iff_forall_not_mem.mpr ?_
    rintro ⟨key, value⟩ entry
    exact absent key (Option.isSome_iff_exists.mpr ⟨value, get?_eq_some_iff.mpr entry⟩)

/-- A table has no key twice, so its last value for a key is the only one. -/
theorem latest?_entries [DecidableEq κ] (t : Table κ ν) (key : κ) :
    latest? t.entries key = t.get? key := by
  cases last : latest? t.entries key with
  | some value => exact (get?_eq_some_iff.mpr (mem_of_latest? last)).symm
  | none =>
      symm
      rw [Option.eq_none_iff_forall_ne_some]
      intro value held
      have listed := List.mem_map_of_mem (f := Prod.fst) (get?_eq_some_iff.mp held)
      simp [← isSome_latest?, last] at listed

/-- Setting entries one after the other leaves the last value for each key, and every other key
as it was. -/
theorem get?_insertAll [DecidableEq κ] [Std.TransOrd κ] (t : Table κ ν)
    (entries : List (κ × ν)) (key : κ) :
    (t.insertAll entries).get? key = (latest? entries key).or (t.get? key) := by
  induction entries using List.reverseRecOn with
  | nil => rfl
  | append_singleton earlier entry ih =>
      rw [insertAll, List.foldl_append, List.foldl_cons, List.foldl_nil, ← insertAll,
        latest?_concat]
      by_cases same : entry.1 = key
      · rw [if_pos same, same, get?_insert_self, Option.some_or]
      · rw [if_neg same, get?_insert_of_ne _ _ fun equal => same equal.symm, ih]

/-- A table is made again from its entries. -/
theorem ofList_entries [DecidableEq κ] [Std.TransOrd κ] (t : Table κ ν) :
    ofList t.entries = t := by
  refine ext_get? fun key => ?_
  rw [ofList, get?_insertAll, latest?_entries, get?_empty, Option.or_none]

/-- The upper of two tables answers for its keys. -/
theorem get?_merge [DecidableEq κ] [Std.TransOrd κ] (t other : Table κ ν) (key : κ) :
    (t.merge other).get? key = (other.get? key).or (t.get? key) := by
  rw [merge, get?_insertAll, latest?_entries]

omit [Std.LawfulEqOrd κ] in
theorem get?_map {μ : Type} (f : ν → μ) (t : Table κ ν) (key : κ) :
    (t.map f).get? key = (t.get? key).map f := by
  change lookup key (t.entries.map fun entry => (entry.1, f entry.2)) = _
  rw [get?]
  induction t.entries with
  | nil => rfl
  | cons first rest ih =>
      rw [List.map_cons, lookup, lookup, ih]
      split <;> rfl

end Table

end BeanConstraints
