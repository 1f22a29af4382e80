/-
# Finite tables in key order

A table keeps one value per key and lists its entries in rising key order, so
two tables with the same answers are the same table. The order is carried by the
type: no operation can leave it.
-/

namespace BeanConstraints

/-- Finitely many entries, with keys in strictly rising order. -/
structure Table (κ ν : Type) [Ord κ] where
  entries : List (κ × ν)
  rising : entries.Pairwise fun first second => compare first.1 second.1 = .lt

namespace Table

variable {κ ν : Type} [Ord κ]

/-- The table without entries. -/
def empty : Table κ ν := ⟨[], .nil⟩

instance : Inhabited (Table κ ν) := ⟨empty⟩

instance [DecidableEq κ] [DecidableEq ν] : DecidableEq (Table κ ν) := fun first second =>
  if h : first.entries = second.entries then
    isTrue (by cases first; cases second; simp_all)
  else isFalse fun equal => h (equal ▸ rfl)

/-- The value of a key in a list of entries. -/
def lookup (key : κ) : List (κ × ν) → Option ν
  | [] => none
  | entry :: rest => if compare key entry.1 = .eq then some entry.2 else lookup key rest

/-- The value of a key, if the table has the key. -/
def get? (t : Table κ ν) (key : κ) : Option ν :=
  lookup key t.entries

/-- Whether the table has the key. -/
def contains (t : Table κ ν) (key : κ) : Bool :=
  (t.get? key).isSome

/-- The keys in rising order. -/
def keys (t : Table κ ν) : List κ :=
  t.entries.map Prod.fst

/-- The values in the order of their keys. -/
def values (t : Table κ ν) : List ν :=
  t.entries.map Prod.snd

/-- The number of keys. -/
def size (t : Table κ ν) : Nat :=
  t.entries.length

/-- Whether the table has no key. -/
def isEmpty (t : Table κ ν) : Bool :=
  t.entries.isEmpty

/-- Put an entry where the key order wants it, in place of one with the same key. -/
def place (key : κ) (value : ν) : List (κ × ν) → List (κ × ν)
  | [] => [(key, value)]
  | entry :: rest =>
      match compare key entry.1 with
      | .lt => (key, value) :: entry :: rest
      | .eq => (key, value) :: rest
      | .gt => entry :: place key value rest

theorem mem_place {key : κ} {value : ν} {entries : List (κ × ν)} {entry : κ × ν}
    (h : entry ∈ place key value entries) : entry = (key, value) ∨ entry ∈ entries := by
  induction entries with
  | nil => simpa [place] using h
  | cons first rest ih =>
      simp only [place] at h
      split at h
      · simpa using h
      · simp only [List.mem_cons] at h ⊢
        exact h.imp id .inr
      · simp only [List.mem_cons] at h ⊢
        rcases h with rfl | h
        · exact .inr (.inl rfl)
        · exact (ih h).imp id .inr

theorem rising_place [Std.TransOrd κ] {key : κ} {value : ν} {entries : List (κ × ν)}
    (h : entries.Pairwise fun first second => compare first.1 second.1 = .lt) :
    (place key value entries).Pairwise fun first second => compare first.1 second.1 = .lt := by
  induction entries with
  | nil => simp [place]
  | cons first rest ih =>
      obtain ⟨least, rising⟩ := List.pairwise_cons.mp h
      simp only [place]
      split
      case _ below =>
        refine List.pairwise_cons.mpr ⟨fun later hlater => ?_, h⟩
        rcases List.mem_cons.mp hlater with rfl | hlater
        · exact below
        · exact Std.TransCmp.lt_trans below (least later hlater)
      case _ same =>
        refine List.pairwise_cons.mpr ⟨fun later hlater => ?_, rising⟩
        exact (Std.TransCmp.congr_left same).trans (least later hlater)
      case _ above =>
        refine List.pairwise_cons.mpr ⟨fun later hlater => ?_, ih rising⟩
        rcases mem_place hlater with rfl | hlater
        · exact Std.OrientedCmp.gt_iff_lt.mp above
        · exact least later hlater

/-- Set the value of a key. -/
def insert [Std.TransOrd κ] (t : Table κ ν) (key : κ) (value : ν) : Table κ ν :=
  ⟨place key value t.entries, rising_place t.rising⟩

/-- Remove a key. -/
def erase (t : Table κ ν) (key : κ) : Table κ ν :=
  ⟨t.entries.filter fun entry => compare key entry.1 != .eq, t.rising.filter _⟩

/-- Set the values of all the keys of a list, a later value winning over an earlier one. -/
def insertAll [Std.TransOrd κ] (t : Table κ ν) (entries : List (κ × ν)) : Table κ ν :=
  entries.foldl (fun table entry => table.insert entry.1 entry.2) t

/-- The table of a list of entries, a later value winning over an earlier one. -/
def ofList [Std.TransOrd κ] (entries : List (κ × ν)) : Table κ ν :=
  empty.insertAll entries

/-- Overlay a table with another, whose values win. -/
def merge [Std.TransOrd κ] (t other : Table κ ν) : Table κ ν :=
  t.insertAll other.entries

/-- Change every value. -/
def map {μ : Type} (f : ν → μ) (t : Table κ ν) : Table κ μ :=
  ⟨t.entries.map fun entry => (entry.1, f entry.2), by
    simpa [List.pairwise_map] using t.rising⟩

/-- A placed entry answers for the keys that compare equal to its own, and for no others. -/
theorem lookup_place [Std.TransOrd κ] (key other : κ) (value : ν) (entries : List (κ × ν)) :
    lookup other (place key value entries) =
      if compare other key = .eq then some value else lookup other entries := by
  induction entries with
  | nil => rfl
  | cons first rest ih =>
      simp only [place]
      split
      · rfl
      case _ same =>
        rw [lookup, lookup, ← Std.TransCmp.congr_right same]
        split <;> rfl
      case _ above =>
        rw [lookup, lookup, ih]
        by_cases found : compare other first.1 = .eq
        · have apart : compare other key ≠ .eq := by
            rw [Std.TransCmp.congr_left found, Std.OrientedCmp.gt_iff_lt.mp above]
            exact nofun
          rw [if_pos found, if_neg apart, if_pos found]
        · rw [if_neg found, if_neg found]

theorem get?_insert [Std.TransOrd κ] (t : Table κ ν) (key other : κ) (value : ν) :
    (t.insert key value).get? other =
      if compare other key = .eq then some value else t.get? other :=
  lookup_place key other value t.entries

/-- What was just set is what is read. -/
@[simp]
theorem get?_insert_self [Std.TransOrd κ] (t : Table κ ν) (key : κ) (value : ν) :
    (t.insert key value).get? key = some value := by
  rw [get?_insert, if_pos Std.ReflCmp.compare_self]

/-- Setting one key leaves every other key alone. -/
theorem get?_insert_of_ne [Std.TransOrd κ] [Std.LawfulEqOrd κ] (t : Table κ ν) {key other : κ}
    (value : ν) (h : other ≠ key) : (t.insert key value).get? other = t.get? other := by
  rw [get?_insert, if_neg fun equal => h (Std.LawfulEqCmp.eq_of_compare equal)]

/-- Removing one key leaves every other key alone. -/
theorem get?_erase_of_ne [Std.LawfulEqOrd κ] (t : Table κ ν) {key other : κ} (h : other ≠ key) :
    (t.erase key).get? other = t.get? other := by
  change lookup other (t.entries.filter fun entry => compare key entry.1 != .eq) = _
  rw [get?]
  induction t.entries with
  | nil => rfl
  | cons first rest ih =>
      by_cases same : compare key first.1 = .eq
      · have apart : compare other first.1 ≠ .eq := by
          rw [← Std.LawfulEqCmp.eq_of_compare same]
          exact fun equal => h (Std.LawfulEqCmp.eq_of_compare equal)
        rw [List.filter_cons_of_neg (by simp [same]), ih, lookup, if_neg apart]
      · rw [List.filter_cons_of_pos (by simp [same]), lookup, lookup, ih]

@[simp]
theorem get?_empty (key : κ) : (empty : Table κ ν).get? key = none := rfl

/-- Setting a key adds it to the keys of a table. -/
theorem contains_insert [Std.TransOrd κ] [Std.LawfulEqOrd κ] (t : Table κ ν) (key other : κ)
    (value : ν) :
    (t.insert key value).contains other = true ↔ other = key ∨ t.contains other = true := by
  unfold contains
  by_cases same : other = key
  · rw [same, get?_insert_self]
    exact iff_of_true rfl (.inl rfl)
  · rw [get?_insert_of_ne _ _ same, or_iff_right same]

end Table

end BeanConstraints
