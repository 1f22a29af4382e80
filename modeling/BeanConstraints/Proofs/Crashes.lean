/-
# Crashes leave no trace

The provider of parameter names may crash in the middle of building metadata, while
the lock on what a manager keeps is held. Afterwards the lock is poisoned and everything
else is as before, and since nobody heeds the poison, a manager cannot be told from one
in which the crash never happened. So the requests that crashed can be struck out of any
run: the others are answered as they were, with the same objects.

The comparison is with the manager as it would be if nobody had ever crashed. Requests
go along with that change, whatever they are, and a crash is undone by it.
-/

import BeanConstraints.Proofs.Placements
import BeanConstraints.Proofs.Serving

namespace BeanConstraints

namespace Locked

variable {κ ν : Type} [Ord κ] (lock : Locked κ ν)

/-- The lock as if nobody had crashed. -/
def mended : Locked κ ν :=
  ⟨lock.table, false⟩

@[simp]
theorem table_mended : lock.mended.table = lock.table := rfl

@[simp]
theorem mended_mended : lock.mended.mended = lock.mended := rfl

@[simp]
theorem mended_crash : lock.crash.mended = lock.mended := by
  simp [mended]

@[simp]
theorem mended_insert [Std.TransOrd κ] (key : κ) (value : ν) :
    (lock.insert key value).mended = lock.mended.insert key value := by
  simp [mended, insert, change]

end Locked

namespace Metadata.Manager

variable (manager : Manager)

/-- The manager as if nobody had crashed. -/
def mended : Manager :=
  { manager with beans := manager.beans.mended }

/-- A request to a manager. -/
inductive Visit where
  /-- For metadata, with the definitions as they are at that time. -/
  | bean (registry : Registry) (typeName : String)
  | size
  | clear

/-- What a request is answered. -/
inductive Reply where
  | bean (built : Built)
  /-- The provider of parameter names has crashed. -/
  | crashed
  | size (count : Nat)
  | cleared
  deriving DecidableEq

/-- Whether there is no answer because of a crash. -/
def Reply.isCrash : Reply → Bool
  | crashed => true
  | _ => false

/-- Answer a request. -/
def visit : Serving Manager Visit Reply
  | manager, .bean registry typeName =>
      let (_, later, built) := manager.bean registry typeName
      (later, (built.map Reply.bean).getD .crashed)
  | manager, .size => (manager, .size manager.size)
  | manager, .clear => (manager.clear, .cleared)

/-- A request for metadata is answered with what is kept, with what is built and kept from then on,
or not at all, and then the lock is poisoned. -/
theorem bean_cases (registry : Registry) (typeName : String) :
    (∃ built, manager.beans.get? typeName = some built ∧
        (manager.bean registry typeName).2 = (manager, some built)) ∨
      (manager.beans.get? typeName = none ∧
        ∃ bean, (manager.build registry typeName).2 = some bean ∧
          (manager.bean registry typeName).2 =
            ({ manager with
              beans := manager.beans.insert typeName ⟨manager.made, bean⟩
              made := manager.made + 1 }, some ⟨manager.made, bean⟩)) ∨
      (manager.beans.get? typeName = none ∧ (manager.build registry typeName).2 = none ∧
        (manager.bean registry typeName).2 =
          ({ manager with beans := manager.beans.crash }, none)) := by
  unfold bean
  cases kept : manager.beans.get? typeName with
  | some built => exact .inl ⟨built, rfl, rfl⟩
  | none =>
      cases built : manager.build registry typeName with
      | mk journal made =>
          cases made with
          | some bean => exact .inr (.inl ⟨rfl, bean, rfl, rfl⟩)
          | none => exact .inr (.inr ⟨rfl, rfl, rfl⟩)

/-- There is no metadata exactly if the provider crashes on a parameter. -/
theorem build_eq_none_iff (registry : Registry) (typeName : String) :
    (manager.build registry typeName).2 = none ↔
      ∃ placed ∈ placementsOn manager.sources typeName, ∃ method index arity,
        placed.2.element = .parameter method index arity ∧
          manager.key.naming.role.names method arity = none := by
  rw [build, build_result, Option.map_eq_none_iff, ← Option.not_isSome_iff_eq_none,
    isSome_mapM_resolved]
  simp [Named]

/-- Nobody is told of an earlier crash, and nothing is done because of it. -/
theorem bean_mended (registry : Registry) (typeName : String) :
    (manager.mended.bean registry typeName).2.1.mended =
        (manager.bean registry typeName).2.1.mended ∧
      (manager.mended.bean registry typeName).2.2 = (manager.bean registry typeName).2.2 := by
  have found : manager.mended.beans.get? typeName = manager.beans.get? typeName := by
    simp [mended]
  have made : manager.mended.build registry typeName = manager.build registry typeName := rfl
  unfold bean
  rw [found, made]
  cases manager.beans.get? typeName with
  | some built => exact ⟨rfl, rfl⟩
  | none =>
      rcases manager.build registry typeName with ⟨journal, _ | bean⟩
      · exact ⟨by simp [mended], rfl⟩
      · exact ⟨by simp [mended], rfl⟩

theorem visit_mended (request : Visit) :
    (manager.mended.visit request).1.mended = (manager.visit request).1.mended ∧
      (manager.mended.visit request).2 = (manager.visit request).2 := by
  cases request with
  | bean registry typeName =>
      obtain ⟨later, built⟩ := manager.bean_mended registry typeName
      exact ⟨later, congrArg (fun built => (Option.map Reply.bean built).getD .crashed) built⟩
  | size => exact ⟨rfl, by simp [visit, size, mended]⟩
  | clear => exact ⟨rfl, rfl⟩

/-- What a manager answers does not depend on earlier crashes. -/
theorem decidedBy_mended : Serving.DecidedBy visit mended := by
  intro one other request alike
  obtain ⟨later, reply⟩ := one.visit_mended request
  obtain ⟨otherLater, otherReply⟩ := other.visit_mended request
  rw [← later, ← reply, alike, otherLater, otherReply]
  exact ⟨rfl, rfl⟩

variable {manager}

/-- A request crashes only if the metadata was not there and cannot be built, and then only the
lock is not as before. -/
theorem visit_of_crashed {request : Visit} (crashed : (manager.visit request).2.isCrash = true) :
    (∃ registry typeName, request = .bean registry typeName ∧
        manager.beans.get? typeName = none ∧ (manager.build registry typeName).2 = none) ∧
      (manager.visit request).1 = { manager with beans := ⟨manager.beans.table, true⟩ } := by
  cases request with
  | bean registry typeName =>
      rcases manager.bean_cases registry typeName with
        ⟨built, _, said⟩ | ⟨_, bean, _, said⟩ | ⟨missing, failed, said⟩
      · simp [visit, said, Reply.isCrash] at crashed
      · simp [visit, said, Reply.isCrash] at crashed
      · exact ⟨⟨registry, typeName, rfl, missing, failed⟩, by simp [visit, said, Locked.crash]⟩
  | size => cases crashed
  | clear => cases crashed

/-- What is not there and cannot be built makes the request for it crash. -/
theorem crashed_of_unbuilt {registry : Registry} {typeName : String}
    (missing : manager.beans.get? typeName = none)
    (failed : (manager.build registry typeName).2 = none) :
    (manager.visit (.bean registry typeName)).2.isCrash = true := by
  rcases manager.bean_cases registry typeName with
    ⟨built, kept, _⟩ | ⟨_, bean, made, _⟩ | ⟨_, _, said⟩
  · cases missing.symm.trans kept
  · cases failed.symm.trans made
  · simp [visit, said, Reply.isCrash]

/-- Answering leaves alone what metadata is built from. -/
theorem after_sources (manager : Manager) (visits : List Visit) :
    (Serving.after visit manager visits).key = manager.key ∧
      (Serving.after visit manager visits).sources = manager.sources := by
  apply Serving.run_induction (motive := fun _ (later : Manager) =>
    later.key = manager.key ∧ later.sources = manager.sources) ⟨rfl, rfl⟩
  intro _ now request ⟨key, sources⟩
  cases request with
  | bean registry typeName =>
      exact ⟨(now.bean_key _ _).trans key, (now.bean_sources _ _).trans sources⟩
  | size => exact ⟨key, sources⟩
  | clear => exact ⟨key, sources⟩

/-- However a run came about, the next request crashes exactly if it is for metadata that is not
kept and one of the parameters in it makes the provider of names crash. Then the lock is poisoned
and everything else is as before, what is kept included. And if all requests that crash are struck
out of a run, the others get the answers that they got. -/
theorem crashes_leave_no_trace (manager : Manager) (visits : List Visit) :
    (∀ request, let before := Serving.after visit manager visits
      let (later, reply) := visit before request
      (reply.isCrash = true ↔
        ∃ registry typeName, request = .bean registry typeName ∧
          before.beans.contains typeName = false ∧
            ∃ placed ∈ placementsOn manager.sources typeName, ∃ method index arity,
              placed.2.element = .parameter method index arity ∧
                manager.key.naming.role.names method arity = none) ∧
      (reply.isCrash = true → later = { before with beans := ⟨before.beans.table, true⟩ })) ∧
      let others := (Serving.history visit manager visits).filter fun turn => !turn.2.isCrash
      Serving.history visit manager (others.map Prod.fst) = others ∧
        (Serving.after visit manager (others.map Prod.fst)).mended =
          (Serving.after visit manager visits).mended := by
  refine ⟨fun request => ?_, ?_⟩
  · intro before
    obtain ⟨key, sources⟩ := manager.after_sources visits
    refine ⟨?_, fun crashed => (visit_of_crashed crashed).2⟩
    have missing (typeName : String) : before.beans.contains typeName = false ↔
        before.beans.get? typeName = none := by
      simp [Table.contains]
    constructor
    · intro crashed
      obtain ⟨registry, typeName, rfl, absent, failed⟩ := (visit_of_crashed crashed).1
      refine ⟨registry, typeName, rfl, (missing typeName).mpr absent, ?_⟩
      rw [← key, ← sources]
      exact (before.build_eq_none_iff registry typeName).mp failed
    · rintro ⟨registry, typeName, rfl, absent, unnamed⟩
      rw [← key, ← sources] at unnamed
      exact crashed_of_unbuilt ((missing typeName).mp absent)
        ((before.build_eq_none_iff registry typeName).mpr unnamed)
  · refine decidedBy_mended.struck (fun before request crashed => ?_) manager visits
    rw [(visit_of_crashed crashed).2]
    rfl

/-- A provider crashes on one of two methods, so the metadata with that method is never there. The
other one is, and it is not the same object again once it was cleared. -/
theorem crashes_leave_no_trace_of_one_method :
    let naming : ParameterNaming :=
      { label := "acme.Names", names := fun method _ => if method = "ship" then none else some [] }
    let sources : List Source := [.mappings ⟨[⟨1, .preSupplied, [], [
      ⟨"Item", [⟨.parameter "price" 0 1, ⟨"Min"⟩⟩]⟩,
      ⟨"Order", [⟨.field "total", ⟨"Min"⟩⟩, ⟨.parameter "ship" 0 1, ⟨"Min"⟩⟩]⟩]⟩]⟩]
    let manager : Manager := ⟨⟨⟨1, naming⟩, .configured [], .strict⟩, sources, .empty, 0⟩
    let visits : List Visit := [.bean .empty "Item", .bean .empty "Order", .bean .empty "Item",
      .size, .clear, .bean .empty "Order", .bean .empty "Item"]
    let item : Bean := ⟨"Item", [⟨.parameter "price" 0 1, "price.arg0", ⟨"Min"⟩, [],
      "programmatic"⟩]⟩
    let replies : List Reply := [.bean ⟨0, item⟩, .bean ⟨0, item⟩, .size 1, .cleared,
      .bean ⟨1, item⟩]
    let others := (Serving.history visit manager visits).filter fun turn => !turn.2.isCrash
    others.map Prod.snd = replies ∧
      (Serving.history visit manager (others.map Prod.fst)).map Prod.snd = replies := by
  intro naming sources manager visits item replies others
  have answered : others.map Prod.snd = replies := by decide
  have struck := (crashes_leave_no_trace manager visits).2.1
  exact ⟨answered, (congrArg (List.map Prod.snd) struck).trans answered⟩

end Metadata.Manager

end BeanConstraints
