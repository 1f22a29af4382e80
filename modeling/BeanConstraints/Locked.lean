/-
# Tables behind locks

A table that several callers share stands behind a lock. Whoever crashes while holding
the lock for a change leaves it poisoned, for good, and everybody who takes it from then
on is warned. Nobody heeds the warning here: callers go on with the table that comes
with it, so a crash keeps nobody out and loses nothing that was in the table.
-/

import BeanConstraints.Table

namespace BeanConstraints

/-- A table behind a lock. -/
structure Locked (κ ν : Type) [Ord κ] where
  table : Table κ ν
  /-- Somebody crashed while holding the lock for a change. -/
  poisoned : Bool

namespace Locked

variable {κ ν : Type} [Ord κ]

/-- A table without entries, behind a sound lock. -/
def empty : Locked κ ν := ⟨.empty, false⟩

instance : Inhabited (Locked κ ν) := ⟨empty⟩

/-- What taking the lock leads to: the table, or a warning that comes with the table. -/
def take (lock : Locked κ ν) : Except (Table κ ν) (Table κ ν) :=
  if lock.poisoned then .error lock.table else .ok lock.table

/-- The table, whether or not there was a warning. -/
def regained : Except (Table κ ν) (Table κ ν) → Table κ ν
  | .ok table => table
  | .error table => table

/-- The table as whoever takes the lock works with it. -/
def read (lock : Locked κ ν) : Table κ ν :=
  regained lock.take

/-- Change the table. -/
def change (lock : Locked κ ν) (act : Table κ ν → Table κ ν) : Locked κ ν :=
  { lock with table := act lock.read }

/-- Crash while holding the lock for a change, before there was one. -/
def crash (lock : Locked κ ν) : Locked κ ν :=
  ⟨lock.read, true⟩

/-- The value of a key, if the table has the key. -/
def get? (lock : Locked κ ν) (key : κ) : Option ν :=
  lock.read.get? key

/-- Whether the table has the key. -/
def contains (lock : Locked κ ν) (key : κ) : Bool :=
  lock.read.contains key

/-- The number of keys. -/
def size (lock : Locked κ ν) : Nat :=
  lock.read.size

/-- Put an entry into the table. -/
def insert [Std.TransOrd κ] (lock : Locked κ ν) (key : κ) (value : ν) : Locked κ ν :=
  lock.change fun table => table.insert key value

/-- Take all entries out of the table. -/
def clear (lock : Locked κ ν) : Locked κ ν :=
  lock.change fun _ => .empty

variable (lock : Locked κ ν)

/-- A warning does not change what is found. -/
@[simp]
theorem read_eq : lock.read = lock.table := by
  unfold read take
  split <;> rfl

@[simp]
theorem table_insert [Std.TransOrd κ] (key : κ) (value : ν) :
    (lock.insert key value).table = lock.table.insert key value := by
  simp [insert, change]

@[simp]
theorem table_crash : lock.crash.table = lock.table := by
  simp [crash]

@[simp]
theorem get?_eq (key : κ) : lock.get? key = lock.table.get? key := by
  simp [get?]

@[simp]
theorem contains_eq (key : κ) : lock.contains key = lock.table.contains key := by
  simp [contains]

@[simp]
theorem size_eq : lock.size = lock.table.size := by
  simp [size]

end Locked

end BeanConstraints
