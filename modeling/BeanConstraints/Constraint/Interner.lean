/-
# Interned constraints

A pool that keeps the text of every name at one place for good, so places can stand for
names. Asking for a name takes up to two steps, each of which sees the pool as a whole: a
look for the name, and only if it is missing a second look that adds it. Other requests may
come between the two steps; the second look is there for them.

Nothing that is kept is ever moved or given up, so a place that is taken stays taken. An
empty text takes no room and therefore no place of its own: all empty texts share one
ticket, and the extent of what is kept tells it from every other text.
-/

import BeanConstraints.Constraint.Basic

namespace BeanConstraints.Constraint

/-- A name as it is kept, with the ticket of its place. -/
structure Interned where
  ticket : Nat
  name : String
  deriving DecidableEq

namespace Interned

/-- How much room the text takes. -/
def extent (interned : Interned) : Nat :=
  interned.name.utf8ByteSize

/-- Equal are those that are kept at one place and take the same room. No text is compared. -/
instance : BEq Interned :=
  ⟨fun first second => first.ticket == second.ticket && first.extent == second.extent⟩

instance : Hashable Interned :=
  ⟨fun interned => mixHash (hash interned.ticket) (hash interned.extent)⟩

/-- Order by name, code point by code point. -/
instance : Ord Interned := ⟨compareOn name⟩

theorem beq_iff {first second : Interned} :
    (first == second) = true ↔ first.ticket = second.ticket ∧ first.extent = second.extent := by
  change (first.ticket == second.ticket && first.extent == second.extent) = true ↔ _
  rw [Bool.and_eq_true, beq_iff_eq, beq_iff_eq]

instance : EquivBEq Interned where
  rfl := beq_iff.mpr ⟨rfl, rfl⟩
  symm same := beq_iff.mpr ⟨(beq_iff.mp same).1.symm, (beq_iff.mp same).2.symm⟩
  trans same next := beq_iff.mpr ⟨(beq_iff.mp same).1.trans (beq_iff.mp next).1,
    (beq_iff.mp same).2.trans (beq_iff.mp next).2⟩

instance : LawfulHashable Interned where
  hash_eq first second same := by
    obtain ⟨place, room⟩ := beq_iff.mp same
    change mixHash (hash first.ticket) (hash first.extent) = _
    rw [place, room]
    rfl

instance : Std.TransOrd Interned :=
  inferInstanceAs (Std.TransCmp (compareOn name))

/-- The constraint of the name. -/
def constraint (interned : Interned) : Constraint := ⟨interned.name⟩

end Interned

/-- The names that are kept, and the first ticket that was never given out. -/
structure Pool where
  kept : List Interned := []
  next : Nat := 1

namespace Pool

/-- No name is kept yet. -/
def empty : Pool := {}

/-- The first step: the name as it is kept, if it is. -/
def find? (pool : Pool) (name : String) : Option Interned :=
  pool.kept.find? fun interned => interned.name == name

/-- Keep a text. Ticket zero is for the place of the empty text. -/
def keep (pool : Pool) (name : String) : Pool × Interned :=
  if name.isEmpty then (⟨pool.kept ++ [⟨0, name⟩], pool.next⟩, ⟨0, name⟩)
  else (⟨pool.kept ++ [⟨pool.next, name⟩], pool.next + 1⟩, ⟨pool.next, name⟩)

/-- The second step: the name as it is kept, from now on if it still was not. -/
def claim (pool : Pool) (name : String) : Pool × Interned :=
  match pool.find? name with
  | some interned => (pool, interned)
  | none => pool.keep name

/-- Both steps in one. -/
def intern (pool : Pool) (name : String) : Pool × Interned :=
  match pool.find? name with
  | some interned => (pool, interned)
  | none => pool.claim name

/-- Intern names one after the other. -/
def internAll (pool : Pool) : List String → Pool × List Interned
  | [] => (pool, [])
  | name :: rest =>
      let (pool, first) := pool.intern name
      let (pool, others) := pool.internAll rest
      (pool, first :: others)

end Pool

end BeanConstraints.Constraint
